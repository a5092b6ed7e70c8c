import ScopeCheck.Proofs.Rule.Unfolding

/-!
# What the expansion of a list of patterns holds

`Rules.entryRules` skips every rule that has been seen anywhere before.  Read plainly, a container
stands for its rules wherever it stands, and only one that is being expanded already, further out,
is cut.

* `Rules.Unfolds` is this reading, with the containers that are being expanded as a path;
  `unfolds_iff` finds the one list that results in `Rules.unfold`;
* `Rules.Within` says which rules stand in the list of a rule, directly or in containers;
* `Rules.entryRules_expands`: what is tried inside a rule is the plain reading with every rule kept
  where it stands first, and these are all the rules within, other than containers.
-/

namespace ScopeCheck.Rules

variable {ρ : Type} {rules : Rules ρ} {path pending read : List RuleIndex} {id : RuleIndex}

/-! ## The plain reading -/

/-- The rules of the list `pending`, with every container replaced by its own rules, are `read`.
The containers of `path` are being expanded already. -/
inductive Unfolds (rules : Rules ρ) : (path pending read : List RuleIndex) → Prop
  | done {path : List RuleIndex} : Unfolds rules path [] []
  /-- A rule that is no container stays where it is. -/
  | rule {path pending read : List RuleIndex} {id : RuleIndex}
      (leaf : (rules.rule id).contents? = none) (rest : Unfolds rules path pending read) :
      Unfolds rules path (id :: pending) (id :: read)
  /-- A container is cut where it is being expanded. -/
  | cut {path pending read contents : List RuleIndex} {id : RuleIndex}
      (container : (rules.rule id).contents? = some contents) (known : id ∈ path)
      (rest : Unfolds rules path pending read) : Unfolds rules path (id :: pending) read
  /-- Anywhere else its rules stand in its place. -/
  | expand {path pending inside read contents : List RuleIndex} {id : RuleIndex}
      (container : (rules.rule id).contents? = some contents) (new : id ∉ path)
      (own : Unfolds rules (id :: path) contents inside) (rest : Unfolds rules path pending read) :
      Unfolds rules path (id :: pending) (inside ++ read)

/-- Outside the table there are only containers without rules. -/
theorem contents?_of_size_le (h : rules.size ≤ id) : (rules.rule id).contents? = some [] := by
  rw [rule, Array.getElem?_eq_none h]
  rfl

/-- The containers outside the path, among the rules of the table. -/
def OpensOutside (rules : Rules ρ) (path unopened : List RuleIndex) : Prop :=
  ∀ id, id ∈ unopened ↔ id < rules.size ∧ id ∉ path

theorem opensOutside_nil : rules.OpensOutside [] (List.range rules.size) := by
  intro id
  simp

theorem OpensOutside.enter {unopened : List RuleIndex} (h : rules.OpensOutside path unopened)
    (id : RuleIndex) : rules.OpensOutside (id :: path) (without id unopened) := by
  intro c
  rw [mem_without, h c, List.mem_cons, not_or, and_assoc, and_comm (a := c ∉ path)]

/-- The induction is on the reading; a container outside the table has nothing to be read. -/
theorem Unfolds.eq_unfold (h : rules.Unfolds path pending read) {unopened : List RuleIndex}
    (hopens : rules.OpensOutside path unopened) : read = rules.unfold unopened pending := by
  induction h generalizing unopened with
  | done => rw [unfold]
  | rule leaf rest ih =>
      rw [unfold]
      simp only [leaf]
      rw [ih hopens]
  | @cut path pending read contents id container known rest ih =>
      have hid : id ∉ unopened := fun hid => ((hopens id).1 hid).2 known
      rw [unfold]
      simp only [container]
      rw [dif_neg hid]
      exact ih hopens
  | @expand path pending inside read contents id container new own rest ihown ihrest =>
      rw [unfold]
      simp only [container]
      by_cases hid : id ∈ unopened
      · rw [dif_pos hid, ihown (hopens.enter id), ihrest hopens]
      · have hsize : rules.size ≤ id :=
          Nat.not_lt.1 fun hlt => hid ((hopens id).2 ⟨hlt, new⟩)
        obtain rfl : [] = contents := by simpa [contents?_of_size_le hsize] using container
        have hnothing : inside = [] := by
          rw [ihown (hopens.enter id), unfold]
        rw [dif_neg hid, hnothing, List.nil_append]
        exact ihrest hopens

theorem unfolds_unfold {unopened : List RuleIndex} (hopens : rules.OpensOutside path unopened) :
    rules.Unfolds path pending (rules.unfold unopened pending) := by
  fun_induction rules.unfold unopened pending generalizing path with
  | case1 unopened => exact .done
  | case2 unopened id pending hleaf ih => exact .rule hleaf (ih hopens)
  | case3 unopened id pending contents hcontents hopen _ ihcontents ihpending =>
      have hnew := ((hopens id).1 hopen).2
      exact .expand hcontents hnew (ihcontents (hopens.enter id)) (ihpending hopens)
  | case4 unopened id pending contents hcontents hopen ih =>
      by_cases hknown : id ∈ path
      · exact .cut hcontents hknown (ih hopens)
      · have hsize : rules.size ≤ id :=
          Nat.not_lt.1 fun hlt => hopen ((hopens id).2 ⟨hlt, hknown⟩)
        exact .expand (contents?_of_size_le hsize) hknown .done (ih hopens)

/-- Every list is read in exactly one way. -/
theorem unfolds_iff :
    rules.Unfolds [] pending read ↔ read = rules.unfold (List.range rules.size) pending := by
  constructor
  · intro h
    exact h.eq_unfold opensOutside_nil
  · rintro rfl
    exact unfolds_unfold opensOutside_nil

/-! ## What stands in a list -/

/-- A rule stands in the list of another one, directly or in a container that does. -/
inductive Within (rules : Rules ρ) (id : RuleIndex) : RuleIndex → Prop
  | direct {inner : RuleIndex} (mem : inner ∈ (rules.rule id).patterns) : Within rules id inner
  | through {container inner : RuleIndex} {contents : List RuleIndex}
      (outer : Within rules id container)
      (hcontents : (rules.rule container).contents? = some contents) (mem : inner ∈ contents) :
      Within rules id inner

/-- Only what stands in a list is read of it. -/
theorem Unfolds.within (h : rules.Unfolds path pending read)
    (hpending : ∀ c ∈ pending, rules.Within id c) : ∀ c ∈ read, rules.Within id c := by
  induction h with
  | done =>
      intro c hc
      cases hc
  | rule leaf rest ih =>
      obtain ⟨hfirst, hrest⟩ := List.forall_mem_cons.1 hpending
      exact List.forall_mem_cons.2 ⟨hfirst, ih hrest⟩
  | cut container known rest ih => exact ih (List.forall_mem_cons.1 hpending).2
  | expand container new own rest ihown ihrest =>
      obtain ⟨hfirst, hrest⟩ := List.forall_mem_cons.1 hpending
      intro c hc
      rcases List.mem_append.1 hc with hc | hc
      · exact ihown (fun c hc => hfirst.through container hc) c hc
      · exact ihrest hrest c hc

/-- All that stands in a list has been seen when the list has been expanded. -/
theorem Within.not_mem_unseenAfter {inner : RuleIndex} (h : rules.Within id inner) :
    inner ∉ rules.unseenAfter (List.range rules.size) (rules.rule id).patterns := by
  induction h with
  | direct hmem => exact Rules.not_mem_unseenAfter List.nodup_range hmem
  | @through container inner contents _ hcontents hmem ih =>
      have hcontainer : container ∈ List.range rules.size := by
        refine List.mem_range.2 (Nat.not_le.1 fun hsize => ?_)
        -- Outside the table there would be nothing in it.
        obtain rfl : [] = contents := by simpa [contents?_of_size_le hsize] using hcontents
        cases hmem
      exact contents_not_mem_unseenAfter List.nodup_range hcontainer ih hcontents hmem

/-- No rule is listed twice. -/
theorem nodup_expand {unseen : List RuleIndex} (h : unseen.Nodup) :
    (rules.expand unseen pending).Nodup := by
  fun_induction rules.expand unseen pending with
  | case1 unseen => exact List.nodup_nil
  | case2 unseen id pending hid _ _ contents hcontents ih => exact ih (h.erase id)
  | case3 unseen id pending hid _ _ hleaf ih =>
      refine List.nodup_cons.2 ⟨fun hmem => ?_, ih (h.erase id)⟩
      exact not_mem_erase_self h id ((mem_expand_iff (h.erase id) hleaf).1 hmem).1
  | case4 unseen id pending hid ih => exact ih h

/-- What is tried inside a rule is the plain reading of its list, in which a container is expanded
wherever it is not being expanded already, with every rule kept where it stands first.  So no rule
is tried twice, and those that are tried are the rules that stand in the list, directly or in
containers, and are no containers. -/
theorem entryRules_expands (rules : Rules ρ) (id : RuleIndex) :
    (∃ read, (∀ other, rules.Unfolds [] (rules.rule id).patterns other ↔ other = read) ∧
      rules.entryRules id = read.eraseDups) ∧
    (rules.entryRules id).Nodup ∧
    ∀ entry, entry ∈ rules.entryRules id ↔
      (rules.rule entry).contents? = none ∧ rules.Within id entry := by
  refine ⟨⟨_, fun other => unfolds_iff, expand_eq_unfold _⟩, nodup_expand List.nodup_range, ?_⟩
  intro entry
  constructor
  · intro hentry
    refine ⟨contents?_of_mem_expand hentry, ?_⟩
    rw [entryRules, expand_eq_unfold, List.mem_eraseDups] at hentry
    have hunfolds : rules.Unfolds [] (rules.rule id).patterns _ := unfolds_unfold opensOutside_nil
    exact hunfolds.within (fun c hc => .direct hc) entry hentry
  · rintro ⟨hleaf, hwithin⟩
    have hrange : entry ∈ List.range rules.size := List.mem_range.2 (lt_size_of_contents? hleaf)
    exact (mem_expand_iff List.nodup_range hleaf).2 ⟨hrange, hwithin.not_mem_unseenAfter⟩

end ScopeCheck.Rules
