import ScopeCheck.Grammar.Provider
import ScopeCheck.Proofs.Line.Move

/-!
# What the rules of a compiled grammar have in common

A `Grammar.Coherent` grammar has a container as its root, and containers where captured text is
scanned; the rules that are tried inside a rule are numbers of the table.  Scans begin with one of
these containers at the bottom of their stack, so no scan can leave its bottom frame.

`Grammar.Loaded.coherent` says that every grammar that can be loaded is coherent.
-/

namespace ScopeCheck

variable {ρ : Type}

/-- A rule that only stands for its patterns. -/
def Grammar.IsContainer (g : Grammar ρ) (id : RuleIndex) : Prop :=
  ∃ patterns, (g.rule id).form = .container patterns

theorem Grammar.IsContainer.closing? {g : Grammar ρ} {id : RuleIndex} (h : g.IsContainer id) :
    (g.rule id).closing? = none := by
  obtain ⟨patterns, hform⟩ := h
  rw [Rule.closing?, hform]

/-- The root and the places where captured text is scanned are containers, and rules refer to rules
of the table. -/
structure Grammar.Coherent (g : Grammar ρ) : Prop where
  root_container : g.IsContainer g.root
  inner_container : ∀ id number rule container,
    (number, rule) ∈ (g.rule id).entryCaptures ++ (g.rule id).closingCaptures →
      rule.inner = some container → g.IsContainer container
  entries_lt : ∀ id, ∀ entry ∈ g.entriesOf id, entry < g.rules.size

/-- A grammar that some provider supplies with all that it mentions. -/
def Grammar.Loaded (engine : RegexEngine ρ) (g : Grammar ρ) : Prop :=
  ∃ provider scope, GrammarProvider.compileFor engine provider scope = .ok (some g)

/-! ## Expanding containers -/

/-- Only rules that have not been seen are listed. -/
theorem Rules.expand_subset (rules : Rules ρ) (unseen pending : List RuleIndex) :
    rules.expand unseen pending ⊆ unseen := by
  fun_induction Rules.expand rules unseen pending with
  | case1 unseen => exact List.nil_subset unseen
  | case2 unseen id pending hmem _ _ contents hcontents ih =>
      exact List.Subset.trans ih List.erase_subset
  | case3 unseen id pending hmem _ _ hcontents ih =>
      exact List.cons_subset.2 ⟨hmem, List.Subset.trans ih List.erase_subset⟩
  | case4 unseen id pending hmem ih => exact ih

/-- What is tried inside a rule are its patterns without containers. -/
theorem Grammar.entriesOf_ofRules (scopeName : String) (rules : Rules ρ) (root id : RuleIndex) :
    (Grammar.ofRules scopeName rules root).entriesOf id = rules.entryRules id := by
  simp only [Grammar.entriesOf, Grammar.ofRules]
  by_cases hid : id < rules.size
  · simp [hid]
  · -- Outside the table there are containers without rules.
    simp [hid, Rules.entryRules, Rules.rule, Rule.patterns, Rule.blank, Rules.expand]

theorem Grammar.entriesOf_ofRules_lt (scopeName : String) (rules : Rules ρ) (root id : RuleIndex) :
    ∀ entry ∈ (Grammar.ofRules scopeName rules root).entriesOf id, entry < rules.size := by
  intro entry hentry
  rw [Grammar.entriesOf_ofRules] at hentry
  exact List.mem_range.1 (Rules.expand_subset rules _ _ hentry)

/-! ## Rules for groups -/

theorem GroupRules.mem_insert {number : Nat} {rule : GroupRule} {rules : GroupRules}
    {entry : Nat × GroupRule} (h : entry ∈ GroupRules.insert number rule rules) :
    entry = (number, rule) ∨ entry ∈ rules := by
  induction rules with
  | nil => exact Or.inl (List.mem_singleton.1 h)
  | cons head rest ih =>
      obtain ⟨n, r⟩ := head
      rw [GroupRules.insert] at h
      split at h
      · exact List.mem_cons.1 h
      · split at h
        · rcases List.mem_cons.1 h with hnew | hrest
          · exact Or.inl hnew
          · exact Or.inr (List.mem_cons_of_mem _ hrest)
        · rcases List.mem_cons.1 h with hhead | hrest
          · exact Or.inr (hhead ▸ List.mem_cons_self)
          · rcases ih hrest with hnew | hold
            · exact Or.inl hnew
            · exact Or.inr (List.mem_cons_of_mem _ hold)

/-- The container of a group is the rule of the patterns of a capture. -/
theorem Part.inner_groupRules {numbers : Numbering} {path : List Step} {e : Entry}
    {around : Surroundings} {which : CaptureMap} {entry : Nat × GroupRule} {container : RuleIndex}
    (hentry : entry ∈ Part.groupRules numbers path e around which)
    (hinner : entry.2.inner = some container) :
    ∃ which place, numbers (.contents which place) = some container := by
  unfold Part.groupRules at hentry
  -- The rules come from the captures or from the empty list that the fold starts with.
  have hstart : ∀ r ∈ ([] : GroupRules), r.2.inner = some container →
      ∃ which place, numbers (.contents which place) = some container := by
    intro r hr
    cases hr
  refine List.foldlRecOn (motive := fun rules : GroupRules => ∀ r ∈ rules,
    r.2.inner = some container → ∃ which place, numbers (.contents which place) = some container)
    _ _ hstart ?_ entry hentry hinner
  intro rules hrules capture _ r hr hcontainer
  rcases GroupRules.mem_insert hr with rfl | hold
  · obtain ⟨_, _, hnumber⟩ := Option.bind_eq_some_iff.1 hcontainer
    exact ⟨_, _, hnumber⟩
  · exact hrules r hold hcontainer

/-! ## Rules of parts -/

section Rules

variable {engine : RegexEngine ρ} {lib : Library} {numbers : Numbering} {p : Part} {r : Rule ρ}

/-- What becomes of a grammar or of the patterns of a capture is a container. -/
theorem Part.rule_isContainer (h : p.rule engine lib numbers = .ok r)
    (hkey : (∃ scope, p.key = .root scope) ∨ ∃ which place, p.key = .contents which place) :
    ∃ patterns, r.form = .container patterns := by
  cases p with
  | root scope document =>
      obtain rfl := Except.ok.inj h
      exact ⟨_, rfl⟩
  | contents which path written around =>
      obtain rfl := Except.ok.inj h
      exact ⟨_, rfl⟩
  | entry path written around =>
      rcases hkey with ⟨scope, hkey⟩ | ⟨which, place, hkey⟩ <;> cases hkey

/-- The captures of the rule of an entry are among those of its maps of captures. -/
theorem Part.rule_captures {path : List Step} {e : Entry} {around : Surroundings}
    (h : (Part.entry path e around).rule engine lib numbers = .ok r) {entry : Nat × GroupRule}
    (hentry : entry ∈ r.entryCaptures ++ r.closingCaptures) :
    ∃ which, entry ∈ Part.groupRules numbers path e around which := by
  simp only [Part.rule, bind, Except.bind, pure, Except.pure] at h
  cases hshape : e.shape with
  | single source =>
      simp only [hshape] at h
      split at h
      · cases h
      · obtain rfl := Except.ok.inj h
        rcases List.mem_append.1 hentry with hentry | hentry
        · exact ⟨.whole, hentry⟩
        · cases hentry
  | region first last =>
      simp only [hshape] at h
      split at h
      · cases h
      · split at h
        · cases h
        · obtain rfl := Except.ok.inj h
          rcases List.mem_append.1 hentry with hentry | hentry
          · exact ⟨.first, hentry⟩
          · exact ⟨.last, hentry⟩
  | during first condition =>
      simp only [hshape] at h
      split at h
      · cases h
      · split at h
        · cases h
        · obtain rfl := Except.ok.inj h
          rcases List.mem_append.1 hentry with hentry | hentry
          · exact ⟨.first, hentry⟩
          · exact ⟨.condition, hentry⟩
  | container =>
      simp only [hshape] at h
      obtain rfl := Except.ok.inj h
      cases hentry

/-- The captures of the rule of a part are scanned with rules of patterns of captures. -/
theorem Part.rule_inner (h : p.rule engine lib numbers = .ok r) {entry : Nat × GroupRule}
    {container : RuleIndex} (hentry : entry ∈ r.entryCaptures ++ r.closingCaptures)
    (hinner : entry.2.inner = some container) :
    ∃ which place, numbers (.contents which place) = some container := by
  cases p with
  | root scope document =>
      obtain rfl := Except.ok.inj h
      cases hentry
  | contents which path written around =>
      obtain rfl := Except.ok.inj h
      cases hentry
  | entry path written around =>
      obtain ⟨which, hmem⟩ := Part.rule_captures h hentry
      exact Part.inner_groupRules hmem hinner

end Rules

/-! ## The table of rules -/

/-- What a list is mapped to stands at the places of what it is mapped from. -/
theorem getElem?_of_mapM_ok {α β ε : Type} {f : α → Except ε β} {xs : List α} {ys : List β}
    (h : xs.mapM f = .ok ys) {i : Nat} {y : β} (hy : ys[i]? = some y) :
    ∃ x, xs[i]? = some x ∧ f x = .ok y := by
  induction xs generalizing ys i with
  | nil =>
      obtain rfl := Except.ok.inj h
      cases hy
  | cons x xs ih =>
      simp only [List.mapM_cons, bind, Except.bind, pure, Except.pure] at h
      split at h
      · cases h
      · rename_i first hfirst
        split at h
        · cases h
        · rename_i rest hrest
          obtain rfl := Except.ok.inj h
          cases i with
          | zero => exact ⟨x, rfl, (Option.some.inj hy) ▸ hfirst⟩
          | succ i => exact ih hrest hy

theorem exists_mapM_ok {α β ε : Type} {f : α → Except ε β} {xs : List α}
    (h : ∀ x ∈ xs, ∃ y, f x = .ok y) : ∃ ys, xs.mapM f = .ok ys := by
  induction xs with
  | nil => exact ⟨[], rfl⟩
  | cons x xs ih =>
      obtain ⟨y, hy⟩ := h x List.mem_cons_self
      obtain ⟨ys, hys⟩ := ih fun x hx => h x (List.mem_cons_of_mem _ hx)
      refine ⟨y :: ys, ?_⟩
      rw [List.mapM_cons, hy, hys]
      rfl

theorem length_of_mapM_ok {α β ε : Type} {f : α → Except ε β} {xs : List α} {ys : List β}
    (h : xs.mapM f = .ok ys) : ys.length = xs.length := by
  induction xs generalizing ys with
  | nil =>
      obtain rfl := Except.ok.inj h
      rfl
  | cons x xs ih =>
      simp only [List.mapM_cons, bind, Except.bind, pure, Except.pure] at h
      split at h
      · cases h
      · split at h
        · cases h
        · rename_i rest hrest
          obtain rfl := Except.ok.inj h
          rw [List.length_cons, List.length_cons, ih hrest]

/-- The numbers of the parts that are visited. -/
def numbering (parts : List Part) : Numbering :=
  fun k => (parts.map Part.key).findIdx? (· == k)

theorem key_of_numbering {parts : List Part} {k : Key} {id : RuleIndex}
    (h : numbering parts k = some id) : ∃ p, parts[id]? = some p ∧ p.key = k := by
  obtain ⟨hlt, hkey, _⟩ := List.findIdx?_eq_some_iff_getElem.1 h
  rw [List.length_map] at hlt
  refine ⟨parts[id], List.getElem?_eq_getElem hlt, ?_⟩
  rw [List.getElem_map] at hkey
  exact eq_of_beq hkey

section Table

variable {engine : RegexEngine ρ} {lib : Library} {parts : List Part} {rules : List (Rule ρ)}
  (hrules : parts.mapM (Part.rule engine lib (numbering parts)) = .ok rules)

include hrules

/-- The rule with the number of a grammar or of the patterns of a capture is a container. -/
theorem isContainer_of_numbering {k : Key} {id : RuleIndex} (hid : numbering parts k = some id)
    (hk : (∃ scope, k = .root scope) ∨ ∃ which place, k = .contents which place)
    (scopeName : String) (root : RuleIndex) :
    (Grammar.ofRules scopeName rules.toArray root).IsContainer id := by
  obtain ⟨p, hp, rfl⟩ := key_of_numbering hid
  have hlt : id < rules.length := by
    rw [length_of_mapM_ok hrules]
    exact (List.getElem?_eq_some_iff.1 hp).1
  have hr : rules[id]? = some rules[id] := List.getElem?_eq_getElem hlt
  obtain ⟨q, hq, hrule⟩ := getElem?_of_mapM_ok hrules hr
  obtain rfl : p = q := Option.some.inj (hp.symm.trans hq)
  obtain ⟨patterns, hform⟩ := Part.rule_isContainer hrule hk
  refine ⟨patterns, ?_⟩
  simpa [Grammar.rule, Grammar.ofRules, Rules.rule, hr] using hform

theorem inner_isContainer (scopeName : String) (root id : RuleIndex) {number : Nat}
    {rule : GroupRule} {container : RuleIndex}
    (hmem : (number, rule) ∈ ((Grammar.ofRules scopeName rules.toArray root).rule id).entryCaptures
      ++ ((Grammar.ofRules scopeName rules.toArray root).rule id).closingCaptures)
    (hinner : rule.inner = some container) :
    (Grammar.ofRules scopeName rules.toArray root).IsContainer container := by
  have hget : (Grammar.ofRules scopeName rules.toArray root).rule id =
      (rules[id]?).getD Rule.blank := by
    simp [Grammar.rule, Grammar.ofRules, Rules.rule]
  rw [hget] at hmem
  cases hr : rules[id]? with
  | none =>
      rw [hr] at hmem
      cases hmem
  | some r =>
      rw [hr] at hmem
      obtain ⟨p, _, hrule⟩ := getElem?_of_mapM_ok hrules hr
      obtain ⟨which, place, hplace⟩ := Part.rule_inner hrule hmem hinner
      exact isContainer_of_numbering hrules hplace (Or.inr ⟨which, place, rfl⟩) scopeName root

end Table

/-- The base grammar is the first part that is visited. -/
theorem numbering_root {engine : RegexEngine ρ} {lib : Library} {p : Part} {parts : List Part}
    (hroot : lib.root lib.base = some p)
    (h : visitParts engine lib lib.keys [.visit p] = .ok parts) :
    p.key = .root lib.base ∧ numbering parts p.key = some 0 := by
  obtain ⟨document, hdocument, rfl⟩ := Option.map_eq_some_iff.1 hroot
  have hmem : (Part.root lib.base document).key ∈ lib.keys :=
    List.mem_flatMap.2 ⟨(lib.base, document), Dictionary.mem_of_find? hdocument,
      List.mem_cons_self⟩
  rw [visitParts, dif_pos hmem] at h
  generalize visitParts engine lib _ _ = visited at h
  cases visited with
  | error e => cases h
  | ok rest =>
      obtain rfl := Except.ok.inj h
      refine ⟨rfl, ?_⟩
      rw [numbering, List.map_cons, List.findIdx?_cons, beq_self_eq_true, if_pos rfl]

/-- A compiled grammar is coherent. -/
theorem Grammar.coherent_of_compile {engine : RegexEngine ρ} {lib : Library} {g : Grammar ρ}
    (h : Grammar.compile engine lib = .ok (some g)) : g.Coherent := by
  unfold Grammar.compile at h
  split at h
  · cases h
  · rename_i p hroot
    simp only [bind, Except.bind, pure, Except.pure] at h
    split at h
    · cases h
    · rename_i parts hparts
      split at h
      · cases h
      · rename_i rules hrules
        obtain rfl := Option.some.inj (Except.ok.inj h)
        obtain ⟨hkey, hzero⟩ := numbering_root hroot hparts
        refine ⟨?_, ?_, ?_⟩
        · have hcontainer := isContainer_of_numbering hrules hzero (Or.inl ⟨_, hkey⟩) lib.base
            ((numbering parts p.key).getD 0)
          show Grammar.IsContainer _ ((numbering parts p.key).getD 0)
          rw [hzero] at hcontainer ⊢
          exact hcontainer
        · intro id number rule container hmem hinner
          exact inner_isContainer hrules lib.base _ id hmem hinner
        · intro id
          exact Grammar.entriesOf_ofRules_lt lib.base rules.toArray _ id

/-- Every grammar that can be loaded is coherent. -/
theorem Grammar.Loaded.coherent {engine : RegexEngine ρ} {g : Grammar ρ}
    (h : g.Loaded engine) : g.Coherent := by
  obtain ⟨provider, scope, hcompile⟩ := h
  unfold GrammarProvider.compileFor at hcompile
  split at hcompile
  · cases hcompile
  · rename_i documents _
    generalize hresult : Grammar.compile engine ⟨documents, scope⟩ = result at hcompile
    cases result with
    | error e => cases hcompile
    | ok compiled =>
        obtain rfl : compiled = some g := Except.ok.inj hcompile
        exact Grammar.coherent_of_compile hresult

end ScopeCheck
