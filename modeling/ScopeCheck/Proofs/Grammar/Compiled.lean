import ScopeCheck.Proofs.Grammar.Coherent

/-!
# The parts behind the rules

Every rule of a compiled grammar comes from a part that has been visited, and stands at the number
of this part.  `Grammar.CompiledFrom` names the parts.

* `visitParts_of_mem`, `visitParts_closed`: what is to be visited is visited, once and for all that
  follows from it;
* `visitParts_induction`: nothing else is visited;
* `CompiledFrom.rule`: the rule of a part;
* `CompiledFrom.pattern_read`: the patterns of all rules have been read;
* `CompiledFrom.entriesOf`: what is tried inside a rule.
-/

namespace ScopeCheck

variable {ρ : Type} {engine : RegexEngine ρ} {lib : Library}

/-! ## Visits -/

theorem map_cons_eq_ok {ε α : Type} {a : α} {x : Except ε (List α)} {list : List α}
    (h : x.map (a :: ·) = .ok list) : ∃ rest, x = .ok rest ∧ list = a :: rest := by
  cases x with
  | error e => cases h
  | ok rest => exact ⟨rest, rfl, (Except.ok.inj h).symm⟩

section Visits

variable {unseen : List Key} {tasks : List Part.Task} {parts : List Part}

/-- Visits to parts whose keys have not been seen put these keys into the result. -/
theorem visitParts_of_mem (h : visitParts engine lib unseen tasks = .ok parts) {p : Part}
    (hp : .visit p ∈ tasks) (hkey : p.key ∈ unseen) : p.key ∈ parts.map Part.key := by
  fun_induction visitParts engine lib unseen tasks generalizing parts with
  | case1 => cases hp
  | case2 unseen source tasks _ _ ih =>
      rcases List.mem_cons.1 hp with hcheck | hp
      · cases hcheck
      · exact ih h hp hkey
  | case3 => cases h
  | case4 unseen q tasks hq _ _ ih =>
      obtain ⟨rest, hrest, rfl⟩ := map_cons_eq_ok h
      rw [List.map_cons]
      -- Either the key is the one that is seen now, or it stays unseen for the visits behind.
      by_cases hsame : p.key = q.key
      · exact hsame ▸ List.mem_cons_self
      · rcases List.mem_cons.1 hp with hfirst | hp
        · obtain rfl := Part.Task.visit.inj hfirst
          exact absurd rfl hsame
        · refine List.mem_cons_of_mem _ (ih hrest (List.mem_append_right _ hp) ?_)
          exact (List.mem_erase_of_ne hsame).2 hkey
  | case5 unseen q tasks hq ih =>
      rcases List.mem_cons.1 hp with hfirst | hp
      · obtain rfl := Part.Task.visit.inj hfirst
        exact absurd hkey hq
      · exact ih h hp hkey

/-- What follows from a visited part is visited. -/
theorem visitParts_closed (h : visitParts engine lib unseen tasks = .ok parts) {p q : Part}
    (hp : p ∈ parts) (hq : .visit q ∈ p.tasks lib) (hkey : q.key ∈ unseen) :
    q.key ∈ parts.map Part.key := by
  fun_induction visitParts engine lib unseen tasks generalizing parts with
  | case1 =>
      obtain rfl := Except.ok.inj h
      cases hp
  | case2 unseen source tasks _ _ ih => exact ih h hp hkey
  | case3 => cases h
  | case4 unseen r tasks hr _ _ ih =>
      obtain ⟨rest, hrest, rfl⟩ := map_cons_eq_ok h
      rw [List.map_cons]
      by_cases hsame : q.key = r.key
      · exact hsame ▸ List.mem_cons_self
      · have hunseen : q.key ∈ unseen.erase r.key := (List.mem_erase_of_ne hsame).2 hkey
        refine List.mem_cons_of_mem _ ?_
        -- What follows from `r` is to be visited next.
        rcases List.mem_cons.1 hp with rfl | hp
        · exact visitParts_of_mem hrest (List.mem_append_left _ hq) hunseen
        · exact ih hrest hp hunseen
  | case5 unseen r tasks hr ih => exact ih h hp hkey

/-- What holds of the parts that are to be visited, and goes on to what follows from a visited part,
holds of all parts when they are visited.  It may depend on the keys that are unseen then. -/
theorem visitParts_induction {P : List Key → Part → Prop}
    (herase : ∀ unseen k p, P unseen p → P (unseen.erase k) p)
    (hstep : ∀ unseen p q, p.key ∈ unseen → P unseen p → .visit q ∈ p.tasks lib →
      P (unseen.erase p.key) q)
    (h : visitParts engine lib unseen tasks = .ok parts)
    (htasks : ∀ p, .visit p ∈ tasks → P unseen p) :
    ∀ p ∈ parts, ∃ unseen, p.key ∈ unseen ∧ P unseen p := by
  fun_induction visitParts engine lib unseen tasks generalizing parts with
  | case1 =>
      obtain rfl := Except.ok.inj h
      intro p hp
      cases hp
  | case2 unseen source tasks _ _ ih =>
      exact ih h fun p hp => htasks p (List.mem_cons_of_mem _ hp)
  | case3 => cases h
  | case4 unseen q tasks hq _ _ ih =>
      obtain ⟨rest, hrest, rfl⟩ := map_cons_eq_ok h
      have hfirst : P unseen q := htasks q List.mem_cons_self
      intro p hp
      -- Behind the visit to `q` there are the tasks of `q`, and those that were there before.
      rcases List.mem_cons.1 hp with rfl | hp
      · exact ⟨unseen, hq, hfirst⟩
      · refine ih hrest (fun p hp => ?_) p hp
        rcases List.mem_append.1 hp with hp | hp
        · exact hstep unseen q p hq hfirst hp
        · exact herase unseen q.key p (htasks p (List.mem_cons_of_mem _ hp))
  | case5 unseen q tasks hq ih =>
      exact ih h fun p hp => htasks p (List.mem_cons_of_mem _ hp)

end Visits

/-! ## Numbers -/

/-- Different keys have different numbers. -/
theorem numbering_inj {parts : List Part} {k k' : Key} {id : RuleIndex}
    (h : numbering parts k = some id) (h' : numbering parts k' = some id) : k = k' := by
  obtain ⟨p, hp, rfl⟩ := key_of_numbering h
  obtain ⟨q, hq, rfl⟩ := key_of_numbering h'
  obtain rfl : p = q := Option.some.inj (hp.symm.trans hq)
  rfl

theorem exists_numbering {parts : List Part} {k : Key} (h : k ∈ parts.map Part.key) :
    ∃ id, numbering parts k = some id := by
  have hsome : (numbering parts k).isSome := by
    rw [numbering, List.findIdx?_isSome]
    exact List.any_eq_true.2 ⟨k, h, beq_self_eq_true k⟩
  exact Option.isSome_iff_exists.1 hsome

/-! ## Rules -/

/-- The rule of an entry has the form of the entry, with patterns that have been read. -/
theorem Part.rule_form {numbers : Numbering} {path : List Step} {e : Entry}
    {around : Surroundings} {r : Rule ρ}
    (h : (Part.entry path e around).rule engine lib numbers = .ok r) :
    let patterns := ((Part.entry path e around).patterns lib).filterMap fun q => numbers q.key
    let captures := Part.groupRules numbers path e around
    match e.shape with
    | .single source => ∃ pattern, Pattern.read engine source = .ok pattern ∧
        r.form = .single pattern (captures .whole)
    | .region first last => ∃ begins ends, Pattern.read engine first = .ok begins ∧
        Pattern.read engine last = .ok ends ∧
        r.form = .region begins (captures .first) ends (captures .last) e.triesEndLast patterns
    | .during first condition => ∃ begins holds, Pattern.read engine first = .ok begins ∧
        Pattern.read engine condition = .ok holds ∧
        r.form = .during begins (captures .first) holds (captures .condition) patterns
    | .container => r.form = .container patterns := by
  simp only [Part.rule, bind, Except.bind, pure, Except.pure] at h
  cases hshape : e.shape with
  | container =>
      simp only [hshape] at h
      obtain rfl := Except.ok.inj h
      rfl
  | single source =>
      simp only [hshape] at h
      split at h
      · cases h
      · rename_i own hown
        obtain rfl := Except.ok.inj h
        exact ⟨own, hown, rfl⟩
  | region first last =>
      simp only [hshape] at h
      split at h
      · cases h
      · rename_i begins hbegins
        split at h
        · cases h
        · rename_i ends hends
          obtain rfl := Except.ok.inj h
          exact ⟨begins, ends, hbegins, hends, rfl⟩
  | during first condition =>
      simp only [hshape] at h
      split at h
      · cases h
      · rename_i begins hbegins
        split at h
        · cases h
        · rename_i holds hholds
          obtain rfl := Except.ok.inj h
          exact ⟨begins, holds, hbegins, hholds, rfl⟩

/-- The rule of a grammar, or of the patterns of a capture, is the container of its patterns. -/
theorem Part.rule_of_not_entry {numbers : Numbering} {p : Part} {r : Rule ρ}
    (h : p.rule engine lib numbers = .ok r) (hp : ∀ path e around, p ≠ .entry path e around) :
    r = ⟨none, none, .container ((p.patterns lib).filterMap fun q => numbers q.key)⟩ := by
  cases p with
  | root scope d => exact (Except.ok.inj h).symm
  | contents which path e around => exact (Except.ok.inj h).symm
  | entry path e around => exact absurd rfl (hp path e around)

/-- The patterns of the rule of a part have been read. -/
theorem Part.rule_read {numbers : Numbering} {p : Part} {r : Rule ρ}
    (h : p.rule engine lib numbers = .ok r) {pattern : Pattern ρ}
    (hpattern : r.entryPattern? = some pattern ∨ r.closing? = some pattern) :
    ∃ source, Pattern.read engine source = .ok pattern := by
  have hcontainer : ∀ {patterns}, r.form = .container patterns →
      ∃ source, Pattern.read engine source = .ok pattern := by
    intro patterns hform
    simp [Rule.entryPattern?, Rule.closing?, hform] at hpattern
  cases p with
  | root scope d => exact hcontainer (congrArg Rule.form (Part.rule_of_not_entry h (by simp)))
  | contents which path e around =>
      exact hcontainer (congrArg Rule.form (Part.rule_of_not_entry h (by simp)))
  | entry path e around =>
      have hform := Part.rule_form h
      cases hshape : e.shape with
      | container =>
          simp only [hshape] at hform
          exact hcontainer hform
      | single source =>
          simp only [hshape] at hform
          obtain ⟨own, hown, hform⟩ := hform
          simp only [Rule.entryPattern?, Rule.closing?, hform, Option.some.injEq, reduceCtorEq,
            or_false] at hpattern
          exact ⟨source, hpattern ▸ hown⟩
      | region first last =>
          simp only [hshape] at hform
          obtain ⟨begins, ends, hbegins, hends, hform⟩ := hform
          simp only [Rule.entryPattern?, Rule.closing?, hform, Option.some.injEq] at hpattern
          rcases hpattern with rfl | rfl
          · exact ⟨first, hbegins⟩
          · exact ⟨last, hends⟩
      | during first condition =>
          simp only [hshape] at hform
          obtain ⟨begins, holds, hbegins, hholds, hform⟩ := hform
          simp only [Rule.entryPattern?, Rule.closing?, hform, Option.some.injEq] at hpattern
          rcases hpattern with rfl | rfl
          · exact ⟨first, hbegins⟩
          · exact ⟨condition, hholds⟩

/-- The rules of a grammar come from these parts of a library, in this order. -/
structure Grammar.CompiledFrom (engine : RegexEngine ρ) (lib : Library) (g : Grammar ρ)
    (parts : List Part) : Prop where
  visited : ∃ p, lib.root lib.base = some p ∧
    visitParts engine lib lib.keys [.visit p] = .ok parts
  rules : ∃ rules, parts.mapM (Part.rule engine lib (numbering parts)) = .ok rules ∧
    g = Grammar.ofRules lib.base rules.toArray 0

theorem Grammar.compile_eq_some {g : Grammar ρ}
    (h : Grammar.compile engine lib = .ok (some g)) :
    ∃ parts, g.CompiledFrom engine lib parts := by
  unfold Grammar.compile at h
  split at h
  · cases h
  · rename_i p hroot
    simp only [bind, Except.bind, pure, Except.pure] at h
    split at h
    · cases h
    · rename_i parts hparts
      split at h
      · cases h
      · rename_i rules hrules
        have hzero : numbering parts p.key = some 0 := (numbering_root hroot hparts).2
        refine ⟨parts, ⟨p, hroot, hparts⟩, rules, hrules, ?_⟩
        rw [← Option.some.inj (Except.ok.inj h)]
        show Grammar.ofRules lib.base rules.toArray ((numbering parts p.key).getD 0) = _
        rw [hzero, Option.getD_some]

/-- The grammar of these rules is what compiling the library results in. -/
theorem Grammar.CompiledFrom.compile_eq {g : Grammar ρ} {parts : List Part}
    (h : g.CompiledFrom engine lib parts) : Grammar.compile engine lib = .ok (some g) := by
  obtain ⟨p, hroot, hparts⟩ := h.visited
  obtain ⟨rules, hrules, rfl⟩ := h.rules
  have hzero : (parts.map Part.key).findIdx? (· == p.key) = some 0 :=
    (numbering_root hroot hparts).2
  have hrules : parts.mapM (Part.rule engine lib fun k =>
      (parts.map Part.key).findIdx? (· == k)) = .ok rules := hrules
  rw [Grammar.compile, hroot]
  simp only [bind, Except.bind, hparts, hrules, hzero, Option.getD_some]
  rfl

theorem Grammar.Loaded.compiledFrom {g : Grammar ρ} (h : g.Loaded engine) :
    ∃ lib parts, g.CompiledFrom engine lib parts := by
  obtain ⟨provider, scope, hcompile⟩ := h
  unfold GrammarProvider.compileFor at hcompile
  split at hcompile
  · cases hcompile
  · rename_i documents _
    generalize hresult : Grammar.compile engine ⟨documents, scope⟩ = result at hcompile
    cases result with
    | error e => cases hcompile
    | ok compiled =>
        obtain rfl : compiled = some g := Except.ok.inj hcompile
        exact ⟨_, Grammar.compile_eq_some hresult⟩

namespace Grammar.CompiledFrom

variable {g : Grammar ρ} {parts : List Part} {p : Part} {id : RuleIndex}

theorem size_eq (h : g.CompiledFrom engine lib parts) : g.rules.size = parts.length := by
  obtain ⟨rules, hrules, rfl⟩ := h.rules
  exact length_of_mapM_ok hrules

/-- The number of a part is one of the table. -/
theorem lt_size (h : g.CompiledFrom engine lib parts) (hp : parts[id]? = some p) :
    id < g.rules.size := by
  rw [h.size_eq]
  exact (List.getElem?_eq_some_iff.1 hp).1

/-- The rule at the number of a part is the one that the part becomes. -/
theorem rule (h : g.CompiledFrom engine lib parts) (hp : parts[id]? = some p) :
    p.rule engine lib (numbering parts) = .ok (g.rule id) := by
  obtain ⟨rules, hrules, rfl⟩ := h.rules
  have hlt : id < rules.length := by
    rw [length_of_mapM_ok hrules]
    exact (List.getElem?_eq_some_iff.1 hp).1
  have hr : rules[id]? = some rules[id] := List.getElem?_eq_getElem hlt
  obtain ⟨q, hq, hrule⟩ := getElem?_of_mapM_ok hrules hr
  obtain rfl : p = q := Option.some.inj (hp.symm.trans hq)
  simpa [Grammar.rule, Grammar.ofRules, Rules.rule, hr] using hrule

/-- Other numbers stand for no rule. -/
theorem rule_eq_blank (h : g.CompiledFrom engine lib parts) (hp : parts[id]? = none) :
    g.rule id = Rule.blank := by
  have hsize : ¬ id < g.rules.size := by
    rw [h.size_eq]
    exact Nat.not_lt.2 (List.getElem?_eq_none_iff.1 hp)
  simp [Grammar.rule, Rules.rule, hsize]

/-- All patterns have been read. -/
theorem pattern_read (h : g.CompiledFrom engine lib parts) {pattern : Pattern ρ}
    (hpattern : (g.rule id).entryPattern? = some pattern ∨
      (g.rule id).closing? = some pattern) :
    ∃ source, Pattern.read engine source = .ok pattern := by
  cases hp : parts[id]? with
  | none =>
      rw [h.rule_eq_blank hp] at hpattern
      rcases hpattern with hpattern | hpattern <;> cases hpattern
  | some p => exact Part.rule_read (h.rule hp) hpattern

/-- The base grammar is the first part. -/
theorem root_eq (h : g.CompiledFrom engine lib parts) :
    ∃ d, Dictionary.find? lib.base lib.documents = some d ∧
      parts[g.root]? = some (.root lib.base d) := by
  obtain ⟨rules, _, rfl⟩ := h.rules
  obtain ⟨p, hroot, hvisited⟩ := h.visited
  obtain ⟨d, hd, rfl⟩ := Option.map_eq_some_iff.1 hroot
  refine ⟨d, hd, ?_⟩
  have hmem : (Part.root lib.base d).key ∈ lib.keys :=
    List.mem_flatMap.2 ⟨(lib.base, d), Dictionary.mem_of_find? hd, List.mem_cons_self⟩
  -- All keys of the library are unseen at first, so this part is the first one.
  rw [visitParts, dif_pos hmem] at hvisited
  generalize visitParts engine lib _ _ = visited at hvisited
  cases visited with
  | error e => cases hvisited
  | ok rest =>
      obtain rfl := Except.ok.inj hvisited
      rfl

/-- What is tried inside a rule are its patterns with all containers expanded. -/
theorem entriesOf (h : g.CompiledFrom engine lib parts) (id : RuleIndex) :
    g.entriesOf id =
      Rules.expand g.rules (List.range g.rules.size) (g.rule id).patterns := by
  obtain ⟨rules, _, rfl⟩ := h.rules
  rw [Grammar.entriesOf_ofRules]
  rfl

/-- What holds of the base grammar, and goes on to what follows from a visited part, holds of all
parts when they are visited.  It may depend on the keys that are unseen then. -/
theorem induction_unseen {P : List Key → Part → Prop} (h : g.CompiledFrom engine lib parts)
    (hroot : ∀ d, Dictionary.find? lib.base lib.documents = some d →
      P lib.keys (.root lib.base d))
    (herase : ∀ unseen k p, P unseen p → P (unseen.erase k) p)
    (hstep : ∀ unseen p q, p.key ∈ unseen → P unseen p → .visit q ∈ p.tasks lib →
      P (unseen.erase p.key) q) : ∀ p ∈ parts, ∃ unseen, p.key ∈ unseen ∧ P unseen p := by
  obtain ⟨base, hbase, hvisited⟩ := h.visited
  obtain ⟨d, hd, rfl⟩ := Option.map_eq_some_iff.1 hbase
  refine visitParts_induction herase hstep hvisited ?_
  intro p hp
  obtain rfl := Part.Task.visit.inj (List.mem_singleton.1 hp)
  exact hroot d hd

theorem induction {P : Part → Prop} (h : g.CompiledFrom engine lib parts)
    (hroot : ∀ d, Dictionary.find? lib.base lib.documents = some d → P (.root lib.base d))
    (hstep : ∀ p q, P p → .visit q ∈ p.tasks lib → P q) : ∀ p ∈ parts, P p := by
  intro p hp
  obtain ⟨_, _, hkeeps⟩ := h.induction_unseen (P := fun _ => P) hroot (fun _ _ _ hp => hp)
    (fun _ p q _ => hstep p q) p hp
  exact hkeeps

/-- What follows from a part has a number, if its key is one of the library. -/
theorem exists_number (h : g.CompiledFrom engine lib parts) {q : Part} (hp : p ∈ parts)
    (hq : .visit q ∈ p.tasks lib) (hkey : q.key ∈ lib.keys) :
    ∃ id, numbering parts q.key = some id := by
  obtain ⟨base, _, hvisited⟩ := h.visited
  exact exists_numbering (visitParts_closed hvisited hp hq hkey)

end Grammar.CompiledFrom

end ScopeCheck
