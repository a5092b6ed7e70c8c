import ScopeCheck.Proofs.Grammar.Broken
import ScopeCheck.Proofs.Grammar.Parallel
import ScopeCheck.Proofs.Line.Renumbered

/-!
# Libraries whose grammars differ in numbers

Libraries that are compiled in parallel become grammars that have the same rules under different
numbers, besides containers without patterns.

* `PartsRelated`: the numbers of parts that belong together, `Library.Parallel.related_numbering`;
* `Library.Parallel.unfold_related`, `Library.Parallel.entries_related`: the same is tried inside of
  their rules, since containers without patterns are expanded to nothing;
* `Library.outcome`: what becomes of a library and a text;
* `Library.Parallel.outcome_eq`: it is the same for both libraries.
-/

namespace ScopeCheck

variable {ρ : Type} {engine : RegexEngine ρ} {lib lib' : Library} {T : Part → Part → Prop}
  {parts parts' : List Part} {g g' : Grammar ρ}

/-! ## The numbers of parts -/

/-- The numbers of parts that belong together. -/
def PartsRelated (T : Part → Part → Prop) (parts parts' : List Part) (i j : RuleIndex) : Prop :=
  ∃ p p', parts[i]? = some p ∧ parts'[j]? = some p' ∧ T p p'

theorem index_of_key (hnodup : (parts.map Part.key).Nodup) {i j : Nat} {p q : Part}
    (hp : parts[i]? = some p) (hq : parts[j]? = some q) (hkey : p.key = q.key) : i = j := by
  have hlt : i < (parts.map Part.key).length := by
    rw [List.length_map]
    exact (List.getElem?_eq_some_iff.1 hp).1
  refine (List.getElem?_inj hlt hnodup).1 ?_
  rw [List.getElem?_map, List.getElem?_map, hp, hq, Option.map_some, Option.map_some, hkey]

theorem Grammar.CompiledFrom.keys_nodup (hkeyed : lib.Keyed) (h : g.CompiledFrom engine lib parts) :
    (parts.map Part.key).Nodup := by
  obtain ⟨p, _, hvisited⟩ := h.visited
  exact (visitParts_nodup hvisited hkeyed.keys_nodup).1

/-! ## Containers without patterns -/

/-- A rule stands for no patterns at all. -/
def Grammar.IsHollow (g : Grammar ρ) (id : RuleIndex) : Prop := (g.rule id).contents? = some []

namespace Rules

variable {rules : Rules ρ} {id : RuleIndex} {unopened pending : List RuleIndex}

theorem unfold_cons_leaf (h : (rules.rule id).contents? = none) :
    rules.unfold unopened (id :: pending) = id :: rules.unfold unopened pending := by
  rw [unfold]
  simp only [h]

theorem unfold_cons_opened {contents : List RuleIndex}
    (h : (rules.rule id).contents? = some contents) (hid : id ∈ unopened) :
    rules.unfold unopened (id :: pending) =
      rules.unfold (without id unopened) contents ++ rules.unfold unopened pending := by
  rw [unfold]
  simp only [h]
  rw [dif_pos hid]

theorem unfold_cons_cut {contents : List RuleIndex}
    (h : (rules.rule id).contents? = some contents) (hid : id ∉ unopened) :
    rules.unfold unopened (id :: pending) = rules.unfold unopened pending := by
  rw [unfold]
  simp only [h]
  rw [dif_neg hid]

theorem unfold_cons_hollow (h : (rules.rule id).contents? = some []) :
    rules.unfold unopened (id :: pending) = rules.unfold unopened pending := by
  by_cases hid : id ∈ unopened
  · rw [unfold_cons_opened h hid, unfold, List.nil_append]
  · exact unfold_cons_cut h hid

end Rules

/-- What a hollow part becomes. -/
theorem Library.Spares.isHollow (hkeyed : lib.Keyed) (hg : g.CompiledFrom engine lib parts)
    {q : Part} (hq : lib.Spares q) {id : RuleIndex} (hid : numbering parts q.key = some id) :
    g.IsHollow id := by
  obtain ⟨p, hp, hkey⟩ := key_of_numbering hid
  have hspare := hq.of_key hkeyed.capturesKeyed (hg.reaches p (List.mem_of_getElem? hp)) hkey
  exact hspare.contents? (hg.rule hp)

/-- Lists of rules belong together, but for containers without patterns. -/
abbrev RulesAligned (T : Part → Part → Prop) (g g' : Grammar ρ) (parts parts' : List Part) :
    List RuleIndex → List RuleIndex → Prop :=
  Aligned (PartsRelated T parts parts') g.IsHollow g'.IsHollow

/-- Elements that are told apart in the same way have their first places together. -/
theorem eraseDups_related {α β : Type} [BEq α] [LawfulBEq α] [BEq β] [LawfulBEq β]
    {R : α → β → Prop} (hunique : ∀ {a b a' b'}, R a b → R a' b' → (a = a' ↔ b = b'))
    {as : List α} {bs : List β} (h : List.Forall₂ R as bs) :
    List.Forall₂ R as.eraseDups bs.eraseDups := by
  match as, bs, h with
  | [], [], .nil => exact .nil
  | a :: as, b :: bs, .cons head tail =>
      have hrest : List.Forall₂ R (as.filter fun c => !c == a) (bs.filter fun c => !c == b) := by
        induction tail with
        | nil => exact .nil
        | @cons c d cs ds hcd _ ih =>
            have hsame : (!c == a) = (!d == b) := by
              rw [Bool.eq_iff_iff]
              simpa using not_congr (hunique hcd head)
            rw [List.filter_cons, List.filter_cons, hsame]
            split
            · exact .cons hcd ih
            · exact ih
      have hshorter := List.length_filter_le (fun c => !c == a) as
      rw [List.eraseDups_cons, List.eraseDups_cons]
      exact .cons head (eraseDups_related hunique hrest)
termination_by as.length

namespace Library.Parallel

variable (h : lib.Parallel engine lib' T)

include h

section Numbers

variable (hparts : PartsAligned lib lib' T parts parts')
  (hnodup' : (parts'.map Part.key).Nodup)

include hnodup'

theorem related_unique (hnodup : (parts.map Part.key).Nodup) {i j i' j' : RuleIndex}
    (hij : PartsRelated T parts parts' i j) (hij' : PartsRelated T parts parts' i' j') :
    i = i' ↔ j = j' := by
  obtain ⟨p, p', hp, hp', hT⟩ := hij
  obtain ⟨q, q', hq, hq', hT'⟩ := hij'
  have hkey := h.key hT
  have hkey' := h.key hT'
  constructor
  · rintro rfl
    obtain rfl := Option.some.inj (hp.symm.trans hq)
    exact index_of_key hnodup' hp' hq' (hkey.symm.trans hkey')
  · rintro rfl
    obtain rfl := Option.some.inj (hp'.symm.trans hq')
    exact index_of_key hnodup hp hq (hkey.trans hkey'.symm)

include hparts

/-- Parts that belong together have numbers that belong together, or none of them has one. -/
theorem related_numbering (q q' : Part) (hq : T q q') :
    Option.Rel (PartsRelated T parts parts') (numbering parts q.key) (numbering parts' q'.key) := by
  cases hnumber : numbering parts q.key with
  | none =>
      cases hnumber' : numbering parts' q'.key with
      | none => exact .none
      | some j =>
          obtain ⟨p', hp', hkey'⟩ := key_of_numbering hnumber'
          rcases hparts.swap.left_or_together (List.mem_of_getElem? hp') with hspare | ⟨p, hp, hT⟩
          · exact absurd hkey'.symm (h.key_ne' hq hspare)
          · have hkey : p.key = q.key := (h.key hT).trans (hkey'.trans (h.key hq).symm)
            obtain ⟨i, hi⟩ := exists_numbering (List.mem_map.2 ⟨p, hp, hkey⟩)
            cases hnumber.symm.trans hi
  | some i =>
      obtain ⟨p, hp, hkey⟩ := key_of_numbering hnumber
      rcases hparts.left_or_together (List.mem_of_getElem? hp) with hspare | ⟨p', hp', hT⟩
      · exact absurd hkey.symm (h.key_ne hq hspare)
      · have hkey' : p'.key = q'.key := (h.key hT).symm.trans (hkey.trans (h.key hq))
        obtain ⟨j, hj⟩ := exists_numbering (List.mem_map.2 ⟨p', hp', hkey'⟩)
        obtain ⟨own, hown, hownKey⟩ := key_of_numbering hj
        obtain ⟨j', hj'⟩ := List.getElem?_of_mem hp'
        obtain rfl := index_of_key hnodup' hown hj' (hownKey.trans hkey'.symm)
        rw [hj]
        exact .some ⟨p, p', hp, hj', hT⟩

end Numbers

/-! ## Rules -/

section Rules

variable (hparts : PartsAligned lib lib' T parts parts') (hg : g.CompiledFrom engine lib parts)
  (hg' : g'.CompiledFrom engine lib' parts')

include hparts hg hg'

theorem rule_related {i j : RuleIndex} (hij : PartsRelated T parts parts' i j) :
    (g.rule i).Like (PartsRelated T parts parts') (g'.rule j) := by
  obtain ⟨p, p', hp, hp', hT⟩ := hij
  have hnumbers := h.related_numbering hparts (hg'.keys_nodup h.keyed')
  exact h.rule hT hnumbers (hg.rule hp) (hg'.rule hp')

theorem patterns_related {i j : RuleIndex} (hij : PartsRelated T parts parts' i j) :
    RulesAligned T g g' parts parts' (g.rule i).patterns (g'.rule j).patterns := by
  obtain ⟨p, p', hp, hp', hT⟩ := hij
  rw [Part.patterns_of_rule (hg.rule hp), Part.patterns_of_rule (hg'.rule hp')]
  exact (h.patterns hT).filterMap (h.related_numbering hparts (hg'.keys_nodup h.keyed'))
    (fun _ hq _ hid => hq.isHollow h.keyed hg hid) fun _ hq _ hid => hq.isHollow h.keyed' hg' hid

/-- Containers belong to containers, with patterns that belong together. -/
theorem contents?_related {i j : RuleIndex} (hij : PartsRelated T parts parts' i j) :
    Option.Rel (RulesAligned T g g' parts parts') (g.rule i).contents? (g'.rule j).contents? := by
  have hpatterns := h.patterns_related hparts hg hg' hij
  have hform := (h.rule_related hparts hg hg' hij).form
  unfold Rule.patterns at hpatterns
  unfold Rule.contents?
  generalize (g.rule i).form = form at hform hpatterns ⊢
  generalize (g'.rule j).form = form' at hform hpatterns ⊢
  cases hform with
  | single => exact .none
  | region => exact .none
  | during => exact .none
  | container => exact .some hpatterns

/-- The outer induction is on the containers that are not being replaced in the first grammar, the
inner one on the rules that are read. -/
theorem unfold_related {unopened unopened' : List RuleIndex}
    (hunopened : ∀ i j, PartsRelated T parts parts' i j → (i ∈ unopened ↔ j ∈ unopened'))
    {pending pending' : List RuleIndex}
    (hpending : RulesAligned T g g' parts parts' pending pending') :
    List.Forall₂ (PartsRelated T parts parts') (g.rules.unfold unopened pending)
      (g'.rules.unfold unopened' pending') := by
  have hunique : ∀ {i j i' j'}, PartsRelated T parts parts' i j →
      PartsRelated T parts parts' i' j' → (i = i' ↔ j = j') :=
    h.related_unique (hg'.keys_nodup h.keyed') (hg.keys_nodup h.keyed)
  obtain ⟨bound, hbound⟩ : ∃ bound, unopened.length ≤ bound := ⟨_, Nat.le_refl _⟩
  induction bound using Nat.strong_induction_on
    generalizing unopened unopened' pending pending' with
  | _ bound ih =>
      induction hpending with
      | nil =>
          rw [Rules.unfold, Rules.unfold]
          exact .nil
      | @left i rest rest' hi _ ihrest =>
          rw [Rules.unfold_cons_hollow hi]
          exact ihrest
      | @right j rest rest' hj _ ihrest =>
          rw [Rules.unfold_cons_hollow hj]
          exact ihrest
      | @both i j rest rest' hij _ ihrest =>
          have hcontents := h.contents?_related hparts hg hg' hij
          have hrest := ihrest
          generalize hi : (g.rule i).contents? = x at hcontents
          generalize hj : (g'.rule j).contents? = y at hcontents
          cases hcontents with
          | none =>
              rw [Rules.unfold_cons_leaf hi, Rules.unfold_cons_leaf hj]
              exact .cons hij hrest
          | some hcontents =>
              by_cases hopen : i ∈ unopened
              · have hopen' := (hunopened i j hij).1 hopen
                have hlength := length_without_lt hopen
                have hwithout : ∀ i' j', PartsRelated T parts parts' i' j' →
                    (i' ∈ without i unopened ↔ j' ∈ without j unopened') := by
                  intro i' j' hij'
                  rw [mem_without, mem_without, hunopened i' j' hij']
                  exact and_congr_right fun _ => not_congr (hunique hij' hij)
                rw [Rules.unfold_cons_opened hi hopen, Rules.unfold_cons_opened hj hopen']
                exact List.rel_append (ih _ (by omega) hwithout hcontents (Nat.le_refl _)) hrest
              · have hopen' := mt (hunopened i j hij).2 hopen
                rw [Rules.unfold_cons_cut hi hopen, Rules.unfold_cons_cut hj hopen']
                exact hrest

/-- The same is tried inside of rules that belong together. -/
theorem entries_related {i j : RuleIndex} (hij : PartsRelated T parts parts' i j) :
    List.Forall₂ (PartsRelated T parts parts') (g.entriesOf i) (g'.entriesOf j) := by
  have hunopened : ∀ i j, PartsRelated T parts parts' i j →
      (i ∈ List.range g.rules.size ↔ j ∈ List.range g'.rules.size) := by
    rintro i j ⟨p, p', hp, hp', _⟩
    rw [List.mem_range, List.mem_range]
    exact ⟨fun _ => hg'.lt_size hp', fun _ => hg.lt_size hp⟩
  have hpatterns := h.patterns_related hparts hg hg' hij
  rw [hg.entriesOf, hg'.entriesOf, Rules.expand_eq_unfold, Rules.expand_eq_unfold]
  exact eraseDups_related
    (h.related_unique (hg'.keys_nodup h.keyed') (hg.keys_nodup h.keyed))
    (h.unfold_related hparts hg hg' hunopened hpatterns)

/-- The grammars have the same rules under different numbers. -/
theorem renumbers : g.Renumbers (PartsRelated T parts parts') g' where
  renames :=
    { unique := h.related_unique (hg'.keys_nodup h.keyed') (hg.keys_nodup h.keyed)
      root := by
        obtain ⟨d, hd, hroot⟩ := hg.root_eq
        obtain ⟨d', hd', hroot'⟩ := hg'.root_eq
        have hbase := h.root
        rw [Library.root, Library.root, hd, hd', Option.map_some, Option.map_some] at hbase
        cases hbase with
        | some hT => exact ⟨_, _, hroot, hroot', hT⟩
      scopeName := by
        obtain ⟨_, _, rfl⟩ := hg.rules
        obtain ⟨_, _, rfl⟩ := hg'.rules
        exact h.base
      rule := h.rule_related hparts hg hg'
      entries := h.entries_related hparts hg hg' }
  coherent := Grammar.coherent_of_compile hg.compile_eq
  coherent' := Grammar.coherent_of_compile hg'.compile_eq
  closed := hg.closed
  closed' := hg'.closed

end Rules

end Library.Parallel

/-! ## Texts -/

/-- What becomes of a library and the lines of a text: a pattern is refused, the base grammar is
missing, or the lines are tokenized. -/
def Library.outcome (engine : RegexEngine ρ) (lib : Library) (lines : List String) :
    Except PatternError (Option (Except GrammarError (List (List Token)))) :=
  (Grammar.compile engine lib).map fun compiled =>
    compiled.map fun g => g.tokens engine .initial lines

/-- Libraries that are compiled in parallel are refused for the same reason, or they give all texts
the same tokens. -/
theorem Library.Parallel.outcome_eq (h : lib.Parallel engine lib' T)
    (hengine : engine.StaysInside) (lines : List String) :
    lib.outcome engine lines = lib'.outcome engine lines := by
  have hroot := h.root
  unfold Library.outcome
  generalize hbase : lib.root lib.base = x at hroot
  generalize hbase' : lib'.root lib'.base = y at hroot
  cases hroot with
  | none =>
      rw [Grammar.compile, hbase, Grammar.compile, hbase']
  | @some p p' hT =>
      have hvisited := h.visitParts_aligned h.keyed.keys_nodup h.keyed'.keys_nodup
        h.seenTogether_keys (.both (.visit hT) .nil)
      generalize hparts : visitParts engine lib lib.keys [.visit p] = x at hvisited
      generalize hparts' : visitParts engine lib' lib'.keys [.visit p'] = y at hvisited
      cases hvisited with
      | same e =>
          rw [Library.compile_eq_error hbase hparts, Library.compile_eq_error hbase' hparts']
      | left h => exact h.elim
      | right h => exact h.elim
      | values haligned =>
          obtain ⟨g, hg⟩ := Library.exists_compiledFrom hbase hparts
          obtain ⟨g', hg'⟩ := Library.exists_compiledFrom hbase' hparts'
          have htokens := (h.renumbers haligned hg hg').tokens_eq hengine lines
          rw [hg.compile_eq, hg'.compile_eq]
          show Except.ok (some (g.tokens engine .initial lines)) =
            .ok (some (g'.tokens engine .initial lines))
          rw [htokens]

end ScopeCheck
