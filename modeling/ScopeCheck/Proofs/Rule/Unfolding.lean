import ScopeCheck.Rule.Flatten

/-!
# Expanding containers, and reading them

`Rules.expand` expands every container once, where it stands first.  `Rules.unfold` is how a list of
rules is read: every container is replaced by its rules wherever it stands, unless it is being
replaced already.

* `expand_append`, with `unseenAfter`: expanding a list is expanding a beginning and then the rest,
  with what is unseen after the beginning;
* `Settled`: the containers that have been seen and are not being replaced lead to nothing unseen;
* `Settled.expand_eq`: while this holds, the expansion is what is read of the list and unseen, every
  rule where it stands first.

With everything unseen this is `expand_eq_unfold`.
-/

namespace ScopeCheck

/-- A list without an element. -/
def without {α : Type} [DecidableEq α] (a : α) (list : List α) : List α := list.filter (· ≠ a)

section Without

variable {α : Type} [DecidableEq α] {a b : α} {list : List α}

@[simp] theorem mem_without : b ∈ without a list ↔ b ∈ list ∧ b ≠ a := by simp [without]

theorem length_without_lt (h : a ∈ list) : (without a list).length < list.length :=
  List.length_filter_lt_length_iff_exists.2 ⟨a, h, by simp⟩

/-- Images that tell the elements of a list apart have their first places where the elements
have them. -/
theorem eraseDups_map {α β : Type} [BEq α] [LawfulBEq α] [BEq β] [LawfulBEq β] {f : α → β}
    {list : List α} (hf : ∀ a ∈ list, ∀ b ∈ list, f a = f b → a = b) :
    (list.map f).eraseDups = list.eraseDups.map f := by
  match list with
  | [] => rfl
  | a :: rest =>
    have hshorter := List.length_filter_le (fun b => !b == a) rest
    have hrest : (rest.map f).filter (fun b => !b == f a) =
        (rest.filter fun b => !b == a).map f := by
      rw [List.filter_map]
      refine congrArg (List.map f) (List.filter_congr fun b hb => ?_)
      have hb : b ∈ a :: rest := List.mem_cons_of_mem _ hb
      have hsame : f b = f a ↔ b = a :=
        ⟨hf b hb a List.mem_cons_self, congrArg f⟩
      rw [Bool.eq_iff_iff]
      simp [hsame]
    have hinside : ∀ b ∈ rest.filter (fun b => !b == a), b ∈ a :: rest :=
      fun b hb => List.mem_cons_of_mem _ ((List.mem_filter.1 hb).1)
    have ih : ((rest.filter fun b => !b == a).map f).eraseDups =
        (rest.filter fun b => !b == a).eraseDups.map f :=
      eraseDups_map fun b hb c hc => hf b (hinside b hb) c (hinside c hc)
    rw [List.map_cons, List.eraseDups_cons, List.eraseDups_cons, List.map_cons, hrest, ih]
termination_by list.length

end Without

namespace Rules

variable {ρ : Type} {rules : Rules ρ}

/-- Reads the rules of a list: containers are replaced by their rules.  `unopened` are the
containers that are not being replaced; any other one is cut. -/
def unfold (rules : Rules ρ) (unopened pending : List RuleIndex) : List RuleIndex :=
  match pending with
  | [] => []
  | id :: pending =>
    match (rules.rule id).contents? with
    | none => id :: unfold rules unopened pending
    | some contents =>
      if h : id ∈ unopened then
        have := length_without_lt h
        unfold rules (without id unopened) contents ++ unfold rules unopened pending
      else unfold rules unopened pending
termination_by (unopened.length, pending.length)
decreasing_by
  all_goals simp_wf
  · exact Prod.Lex.right _ (by simp)
  · exact Prod.Lex.left _ _ this
  · exact Prod.Lex.right _ (by simp)
  · exact Prod.Lex.right _ (by simp)

/-- The rules that have not stood in front after `pending` has been expanded. -/
def unseenAfter (rules : Rules ρ) (unseen pending : List RuleIndex) : List RuleIndex :=
  match pending with
  | [] => unseen
  | id :: pending =>
    if h : id ∈ unseen then
      have := List.length_erase_of_mem h
      have := List.length_pos_of_mem h
      match (rules.rule id).contents? with
      | some contents => unseenAfter rules (unseen.erase id) (contents ++ pending)
      | none => unseenAfter rules (unseen.erase id) pending
    else unseenAfter rules unseen pending
termination_by (unseen.length, pending.length)
decreasing_by
  all_goals simp_wf
  · exact Prod.Lex.left _ _ (by omega)
  · exact Prod.Lex.left _ _ (by omega)
  · exact Prod.Lex.right _ (by simp)

/-! ## One part of a list after the other -/

theorem expand_append (unseen first second : List RuleIndex) :
    rules.expand unseen (first ++ second) =
      rules.expand unseen first ++ rules.expand (rules.unseenAfter unseen first) second := by
  fun_induction rules.expand unseen first with
  | case1 unseen => simp [unseenAfter]
  | case2 unseen id pending hid _ _ contents hcontents ih =>
      rw [List.cons_append, expand, dif_pos hid, unseenAfter, dif_pos hid]
      simp only [hcontents]
      rw [← List.append_assoc, ih]
  | case3 unseen id pending hid _ _ hcontents ih =>
      rw [List.cons_append, expand, dif_pos hid, unseenAfter, dif_pos hid]
      simp only [hcontents]
      rw [ih, List.cons_append]
  | case4 unseen id pending hid ih =>
      rw [List.cons_append, expand, dif_neg hid, unseenAfter, dif_neg hid, ih]

section Unseen

variable {unseen pending : List RuleIndex}

theorem unseenAfter_subset : rules.unseenAfter unseen pending ⊆ unseen := by
  fun_induction rules.unseenAfter unseen pending with
  | case1 unseen => exact List.Subset.refl unseen
  | case2 unseen id pending hid _ _ contents hcontents ih =>
      exact List.Subset.trans ih List.erase_subset
  | case3 unseen id pending hid _ _ hcontents ih => exact List.Subset.trans ih List.erase_subset
  | case4 unseen id pending hid ih => exact ih

theorem nodup_unseenAfter (h : unseen.Nodup) : (rules.unseenAfter unseen pending).Nodup := by
  fun_induction rules.unseenAfter unseen pending with
  | case1 unseen => exact h
  | case2 unseen id pending hid _ _ contents hcontents ih => exact ih (h.erase id)
  | case3 unseen id pending hid _ _ hcontents ih => exact ih (h.erase id)
  | case4 unseen id pending hid ih => exact ih h

theorem not_mem_erase_self (h : unseen.Nodup) (id : RuleIndex) : id ∉ unseen.erase id := by
  rw [h.mem_erase_iff]
  exact fun hid => hid.1 rfl

/-- All rules of the list have been seen. -/
theorem not_mem_unseenAfter (h : unseen.Nodup) {id : RuleIndex} (hid : id ∈ pending) :
    id ∉ rules.unseenAfter unseen pending := by
  fun_induction rules.unseenAfter unseen pending with
  | case1 unseen => cases hid
  | case2 unseen first pending hfirst _ _ contents hcontents ih =>
      rcases List.mem_cons.1 hid with rfl | hid
      · exact fun hafter => not_mem_erase_self h id (unseenAfter_subset hafter)
      · exact ih (h.erase first) (List.mem_append_right _ hid)
  | case3 unseen first pending hfirst _ _ hcontents ih =>
      rcases List.mem_cons.1 hid with rfl | hid
      · exact fun hafter => not_mem_erase_self h id (unseenAfter_subset hafter)
      · exact ih (h.erase first) hid
  | case4 unseen first pending hfirst ih =>
      rcases List.mem_cons.1 hid with rfl | hid
      · exact fun hafter => hfirst (unseenAfter_subset hafter)
      · exact ih h hid

/-- With a container, all that it holds has been seen. -/
theorem contents_not_mem_unseenAfter (h : unseen.Nodup) {id : RuleIndex}
    {contents : List RuleIndex} (hunseen : id ∈ unseen)
    (hseen : id ∉ rules.unseenAfter unseen pending)
    (hcontents : (rules.rule id).contents? = some contents) {inner : RuleIndex}
    (hinner : inner ∈ contents) : inner ∉ rules.unseenAfter unseen pending := by
  fun_induction rules.unseenAfter unseen pending with
  | case1 unseen => exact absurd hunseen hseen
  | case2 unseen first pending hfirst _ _ inside hinside ih =>
      by_cases hsame : id = first
      · subst hsame
        obtain rfl : inside = contents := by simpa [hinside] using hcontents
        exact not_mem_unseenAfter (h.erase id) (List.mem_append_left _ hinner)
      · exact ih (h.erase first) ((List.mem_erase_of_ne hsame).2 hunseen) hseen
  | case3 unseen first pending hfirst _ _ hleaf ih =>
      have hne : id ≠ first := by
        rintro rfl
        simp [hcontents] at hleaf
      exact ih (h.erase first) ((List.mem_erase_of_ne hne).2 hunseen) hseen
  | case4 unseen first pending hfirst ih => exact ih h hunseen hseen

/-- What has been seen and is no container is in the expansion. -/
theorem mem_expand_iff (h : unseen.Nodup) {id : RuleIndex}
    (hleaf : (rules.rule id).contents? = none) :
    id ∈ rules.expand unseen pending ↔ id ∈ unseen ∧ id ∉ rules.unseenAfter unseen pending := by
  fun_induction rules.expand unseen pending with
  | case1 unseen => simp [unseenAfter]
  | case2 unseen first pending hfirst _ _ contents hcontents ih =>
      have hne : id ≠ first := by
        rintro rfl
        simp [hleaf] at hcontents
      rw [ih (h.erase first), List.mem_erase_of_ne hne, unseenAfter, dif_pos hfirst]
      simp only [hcontents]
  | case3 unseen first pending hfirst _ _ hfirstLeaf ih =>
      rw [List.mem_cons, ih (h.erase first), unseenAfter, dif_pos hfirst]
      simp only [hfirstLeaf]
      by_cases hsame : id = first
      · subst hsame
        have hseen : id ∉ rules.unseenAfter (unseen.erase id) pending :=
          fun hafter => not_mem_erase_self h id (unseenAfter_subset hafter)
        simp [hfirst, hseen]
      · simp [hsame, List.mem_erase_of_ne hsame]
  | case4 unseen first pending hfirst ih =>
      rw [ih h, unseenAfter, dif_neg hfirst]

/-- Containers are not in the expansion. -/
theorem contents?_of_mem_expand {id : RuleIndex} (h : id ∈ rules.expand unseen pending) :
    (rules.rule id).contents? = none := by
  fun_induction rules.expand unseen pending with
  | case1 unseen => cases h
  | case2 unseen first pending _ _ _ contents hcontents ih => exact ih h
  | case3 unseen first pending _ _ _ hleaf ih =>
      rcases List.mem_cons.1 h with rfl | h
      · exact hleaf
      · exact ih h
  | case4 unseen first pending _ ih => exact ih h

end Unseen

/-! ## Reading a list -/

theorem contents?_of_mem_unfold {unopened pending : List RuleIndex} {id : RuleIndex}
    (h : id ∈ rules.unfold unopened pending) : (rules.rule id).contents? = none := by
  fun_induction rules.unfold unopened pending with
  | case1 unopened => cases h
  | case2 unopened first pending hleaf ih =>
      rcases List.mem_cons.1 h with rfl | h
      · exact hleaf
      · exact ih h
  | case3 unopened first pending contents _ _ _ ihcontents ihpending =>
      rcases List.mem_append.1 h with h | h
      · exact ihcontents h
      · exact ihpending h
  | case4 unopened first pending contents _ _ ih => exact ih h

/-- What holds of the rules of a list, and of all that a container holds, holds of what is read. -/
theorem forall_mem_unfold {P : RuleIndex → Prop} {unopened pending : List RuleIndex}
    (hcontents : ∀ id contents, (rules.rule id).contents? = some contents →
      ∀ inner ∈ contents, P inner)
    (hpending : ∀ id ∈ pending, P id) : ∀ id ∈ rules.unfold unopened pending, P id := by
  fun_induction rules.unfold unopened pending with
  | case1 unopened =>
      intro id hid
      cases hid
  | case2 unopened first pending _ ih =>
      intro id hid
      rcases List.mem_cons.1 hid with rfl | hid
      · exact hpending id List.mem_cons_self
      · exact ih (fun c hc => hpending c (List.mem_cons_of_mem _ hc)) id hid
  | case3 unopened first pending contents hfirst _ _ ihcontents ihpending =>
      intro id hid
      rcases List.mem_append.1 hid with hid | hid
      · exact ihcontents (hcontents first contents hfirst) id hid
      · exact ihpending (fun c hc => hpending c (List.mem_cons_of_mem _ hc)) id hid
  | case4 unopened first pending contents _ _ ih =>
      exact ih fun c hc => hpending c (List.mem_cons_of_mem _ hc)

/-- What is not being replaced and has been seen leads to nothing unseen; nothing unseen is being
replaced. -/
structure Settled (rules : Rules ρ) (unseen unopened : List RuleIndex) : Prop where
  subset : unseen ⊆ unopened
  contents : ∀ id ∈ unopened, id ∉ unseen → ∀ inside,
    (rules.rule id).contents? = some inside → ∀ inner ∈ inside, inner ∉ unseen

namespace Settled

variable {unseen unopened pending : List RuleIndex}

theorem refl (unseen : List RuleIndex) : Settled rules unseen unseen :=
  ⟨List.Subset.refl unseen, fun _ hid hseen => absurd hid hseen⟩

/-- A rule that is no container may be seen at any time. -/
theorem erase (hsettled : Settled rules unseen unopened) {id : RuleIndex}
    (hleaf : (rules.rule id).contents? = none) : Settled rules (unseen.erase id) unopened where
  subset := List.Subset.trans List.erase_subset hsettled.subset
  contents := by
    intro c hc hseen inside hinside inner hinner hunseen
    have hne : c ≠ id := by
      rintro rfl
      simp [hleaf] at hinside
    have hseen : c ∉ unseen := fun hc => hseen ((List.mem_erase_of_ne hne).2 hc)
    exact hsettled.contents c hc hseen inside hinside inner hinner (List.mem_of_mem_erase hunseen)

/-- A container is replaced when it is seen. -/
theorem enter (hsettled : Settled rules unseen unopened) (h : unseen.Nodup) (id : RuleIndex) :
    Settled rules (unseen.erase id) (without id unopened) where
  subset := by
    intro c hc
    obtain ⟨hne, hc⟩ := h.mem_erase_iff.1 hc
    exact mem_without.2 ⟨hsettled.subset hc, hne⟩
  contents := by
    intro c hc hseen inside hinside inner hinner hunseen
    obtain ⟨hc, hne⟩ := mem_without.1 hc
    have hseen : c ∉ unseen := fun hc => hseen ((List.mem_erase_of_ne hne).2 hc)
    exact hsettled.contents c hc hseen inside hinside inner hinner (List.mem_of_mem_erase hunseen)

/-- After the rules of a container have been expanded it is settled, like all that was seen with
it. -/
theorem leave (hsettled : Settled rules unseen unopened) (h : unseen.Nodup) {id : RuleIndex}
    {contents : List RuleIndex} (hcontents : (rules.rule id).contents? = some contents) :
    Settled rules (rules.unseenAfter (unseen.erase id) contents) unopened where
  subset := by
    intro c hc
    exact hsettled.subset (List.mem_of_mem_erase (unseenAfter_subset hc))
  contents := by
    intro c hc hseen inside hinside inner hinner hunseen
    by_cases hsame : c = id
    · subst hsame
      obtain rfl : contents = inside := by simpa [hcontents] using hinside
      exact not_mem_unseenAfter (h.erase c) hinner hunseen
    · by_cases hc' : c ∈ unseen
      · have hc' : c ∈ unseen.erase id := (List.mem_erase_of_ne hsame).2 hc'
        exact contents_not_mem_unseenAfter (h.erase id) hc' hseen hinside hinner hunseen
      · have hunseen := List.mem_of_mem_erase (unseenAfter_subset hunseen)
        exact hsettled.contents c hc hc' inside hinside inner hinner hunseen

/-- What is read of seen rules is seen. -/
theorem not_mem_of_mem_unfold (hsettled : Settled rules unseen unopened) {opened : List RuleIndex}
    (hopened : opened ⊆ unopened) (hseen : ∀ id ∈ pending, id ∉ unseen) {id : RuleIndex}
    (h : id ∈ rules.unfold opened pending) : id ∉ unseen := by
  fun_induction rules.unfold opened pending with
  | case1 opened => cases h
  | case2 opened first pending _ ih =>
      rcases List.mem_cons.1 h with rfl | h
      · exact hseen id List.mem_cons_self
      · exact ih hopened (fun c hc => hseen c (List.mem_cons_of_mem _ hc)) h
  | case3 opened first pending contents hcontents hfirst _ ihcontents ihpending =>
      rcases List.mem_append.1 h with h | h
      · refine ihcontents (fun c hc => hopened (mem_without.1 hc).1) ?_ h
        exact hsettled.contents first (hopened hfirst) (hseen first List.mem_cons_self) contents
          hcontents
      · exact ihpending hopened (fun c hc => hseen c (List.mem_cons_of_mem _ hc)) h
  | case4 opened first pending contents _ _ ih =>
      exact ih hopened (fun c hc => hseen c (List.mem_cons_of_mem _ hc)) h

/-- The induction is on what is read.  Only a container that has not been seen is expanded; what is
read of a container that has been seen is seen as well. -/
theorem expand_eq (hsettled : Settled rules unseen unopened) (h : unseen.Nodup) :
    rules.expand unseen pending =
      ((rules.unfold unopened pending).filter (· ∈ unseen)).eraseDups := by
  fun_induction rules.unfold unopened pending generalizing unseen with
  | case1 unopened => simp [expand]
  | case2 unopened id pending hleaf ih =>
      by_cases hid : id ∈ unseen
      · rw [expand, dif_pos hid]
        simp only [hleaf]
        rw [ih (hsettled.erase hleaf) (h.erase id), List.filter_cons_of_pos (by simpa using hid),
          List.eraseDups_cons, List.filter_filter]
        -- Behind its first place the rule has been seen.
        congr 2
        refine List.filter_congr fun c _ => ?_
        rw [Bool.eq_iff_iff]
        simp [h.mem_erase_iff]
      · rw [expand, dif_neg hid, ih hsettled h, List.filter_cons_of_neg (by simpa using hid)]
  | case3 unopened id pending contents hcontents hopen _ ihcontents ihpending =>
      by_cases hid : id ∈ unseen
      · have hinside := ihcontents (hsettled.enter h id) (h.erase id)
        have hrest := ihpending (hsettled.leave h hcontents) (nodup_unseenAfter (h.erase id))
        rw [expand, dif_pos hid]
        simp only [hcontents]
        have hsame : (rules.unfold (without id unopened) contents).filter (· ∈ unseen) =
            (rules.unfold (without id unopened) contents).filter (· ∈ unseen.erase id) := by
          refine List.filter_congr fun c hc => ?_
          have hne : c ≠ id := by
            rintro rfl
            simp [contents?_of_mem_unfold hc] at hcontents
          simp [List.mem_erase_of_ne hne]
        rw [expand_append, hinside, hrest, List.filter_append, List.eraseDups_append, hsame]
        -- Of the rest, what has been seen with the container has been read with it.
        congr 2
        rw [List.removeAll, List.filter_filter]
        refine List.filter_congr fun c hc => ?_
        have hc := contents?_of_mem_unfold hc
        have hexpand : c ∈ rules.expand (unseen.erase id) contents ↔ _ :=
          mem_expand_iff (h.erase id) hc
        rw [hinside, List.mem_eraseDups] at hexpand
        have hne : c ≠ id := by
          rintro rfl
          simp [hc] at hcontents
        have hmem : c ∈ unseen.erase id ↔ c ∈ unseen := List.mem_erase_of_ne hne
        have hafter : c ∈ rules.unseenAfter (unseen.erase id) contents → c ∈ unseen :=
          fun hc => List.mem_of_mem_erase (unseenAfter_subset hc)
        rw [Bool.eq_iff_iff]
        simp only [decide_eq_true_eq, Bool.and_eq_true, Bool.not_eq_true', List.elem_eq_mem,
          decide_eq_false_iff_not, hexpand, hmem]
        constructor
        · intro hc
          exact ⟨fun hseen => hseen.2 hc, hafter hc⟩
        · rintro ⟨hseen, hc⟩
          exact Decidable.byContradiction fun hnot => hseen ⟨hc, hnot⟩
      · have hnothing : (rules.unfold (without id unopened) contents).filter (· ∈ unseen) = [] := by
          rw [List.filter_eq_nil_iff]
          intro c hc
          have hseen := hsettled.contents id hopen hid contents hcontents
          have hsub : without id unopened ⊆ unopened := fun c hc => (mem_without.1 hc).1
          simpa using hsettled.not_mem_of_mem_unfold hsub hseen hc
        rw [expand, dif_neg hid, ihpending hsettled h, List.filter_append, hnothing,
          List.nil_append]
  | case4 unopened id pending contents hcontents hopen ih =>
      have hid : id ∉ unseen := fun hid => hopen (hsettled.subset hid)
      rw [expand, dif_neg hid, ih hsettled h]

end Settled

/-- Outside the table there are only containers without rules. -/
theorem lt_size_of_contents? {id : RuleIndex} (h : (rules.rule id).contents? = none) :
    id < rules.size := by
  by_cases hid : id < rules.size
  · exact hid
  · rw [rule, Array.getElem?_eq_none (Nat.not_lt.1 hid), Option.getD_none] at h
    cases h

/-- Expanding the containers of a list gives the rules that are read, each where it stands first. -/
theorem expand_eq_unfold (pending : List RuleIndex) :
    rules.expand (List.range rules.size) pending =
      (rules.unfold (List.range rules.size) pending).eraseDups := by
  rw [(Settled.refl _).expand_eq List.nodup_range, List.filter_eq_self.2]
  intro id hid
  simpa using lt_size_of_contents? (contents?_of_mem_unfold hid)

end Rules

end ScopeCheck
