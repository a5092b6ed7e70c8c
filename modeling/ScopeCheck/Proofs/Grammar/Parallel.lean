import ScopeCheck.Proofs.Grammar.Keyed
import ScopeCheck.Proofs.Grammar.Requested
import ScopeCheck.Proofs.Line.Renaming

/-!
# Libraries that are compiled in parallel

Two libraries have parts that belong together, and besides these only hollow ones, which become
containers without patterns.  Then the visits to their parts go in step.

* `Aligned`: two lists belong together, one by one, when some elements of either are left out;
* `Library.Spares`: the hollow parts, from which nothing follows;
* `Library.Parallel`: what is asked of the parts that belong together;
* `Library.Parallel.visitParts_aligned`: both visits are refused for the same reason, or come to
  parts that belong together.
-/

namespace ScopeCheck

variable {ρ : Type} {engine : RegexEngine ρ} {lib lib' : Library}

/-! ## Lists that are aligned -/

/-- Two lists belong together, one by one, when some elements of either are left out. -/
inductive Aligned {α β : Type} (both : α → β → Prop) (left : α → Prop) (right : β → Prop) :
    List α → List β → Prop
  | nil : Aligned both left right [] []
  | both {a : α} {b : β} {as : List α} {bs : List β} (head : both a b)
      (tail : Aligned both left right as bs) : Aligned both left right (a :: as) (b :: bs)
  | left {a : α} {as : List α} {bs : List β} (head : left a)
      (tail : Aligned both left right as bs) : Aligned both left right (a :: as) bs
  | right {b : β} {as : List α} {bs : List β} (head : right b)
      (tail : Aligned both left right as bs) : Aligned both left right as (b :: bs)

namespace Aligned

variable {α β γ δ : Type} {together : α → β → Prop} {left : α → Prop} {right : β → Prop}
  {together' : γ → δ → Prop} {left' : γ → Prop} {right' : δ → Prop} {as : List α} {bs : List β}

theorem append {as' : List α} {bs' : List β} (h : Aligned together left right as bs)
    (h' : Aligned together left right as' bs') :
    Aligned together left right (as ++ as') (bs ++ bs') := by
  induction h with
  | nil => exact h'
  | both head _ ih => exact .both head ih
  | left head _ ih => exact .left head ih
  | right head _ ih => exact .right head ih

theorem filterMap (h : Aligned together left right as bs) {f : α → Option γ} {f' : β → Option δ}
    (hboth : ∀ a b, together a b → Option.Rel together' (f a) (f' b))
    (hleft : ∀ a, left a → ∀ c, f a = some c → left' c)
    (hright : ∀ b, right b → ∀ c, f' b = some c → right' c) :
    Aligned together' left' right' (as.filterMap f) (bs.filterMap f') := by
  induction h with
  | nil => exact .nil
  | @both a b as bs head _ ih =>
      have hhead := hboth a b head
      rw [List.filterMap_cons, List.filterMap_cons]
      generalize f a = x at hhead ⊢
      generalize f' b = y at hhead ⊢
      cases hhead with
      | none => exact ih
      | some h => exact .both h ih
  | @left a as bs head _ ih =>
      rw [List.filterMap_cons]
      cases ha : f a with
      | none => exact ih
      | some c => exact .left (hleft a head c ha) ih
  | @right b as bs head _ ih =>
      rw [List.filterMap_cons]
      cases hb : f' b with
      | none => exact ih
      | some c => exact .right (hright b head c hb) ih

/-- An element is left out, or belongs to one of the other list. -/
theorem left_or_together (h : Aligned together left right as bs) {a : α} (ha : a ∈ as) :
    left a ∨ ∃ b ∈ bs, together a b := by
  induction h with
  | nil => cases ha
  | @both first b as bs head _ ih =>
      rcases List.mem_cons.1 ha with rfl | ha
      · exact Or.inr ⟨b, List.mem_cons_self, head⟩
      · exact (ih ha).imp_right fun ⟨c, hc, h⟩ => ⟨c, List.mem_cons_of_mem _ hc, h⟩
  | left head _ ih =>
      rcases List.mem_cons.1 ha with rfl | ha
      · exact Or.inl head
      · exact ih ha
  | right _ _ ih =>
      exact (ih ha).imp_right fun ⟨c, hc, h⟩ => ⟨c, List.mem_cons_of_mem _ hc, h⟩

theorem swap (h : Aligned together left right as bs) :
    Aligned (fun b a => together a b) right left bs as := by
  induction h with
  | nil => exact .nil
  | both head _ ih => exact .both head ih
  | left head _ ih => exact .right head ih
  | right head _ ih => exact .left head ih

end Aligned

/-! ## Hollow parts -/

/-- An entry that stands for no patterns at all. -/
structure Entry.IsHollow (e : Entry) : Prop where
  container : e.shape = .container
  patterns : e.patterns.getD [] = []

/-- Such an entry as a part. -/
def Part.IsHollow (p : Part) : Prop := ∃ path e around, p = .entry path e around ∧ e.IsHollow

/-- A part of a library that becomes a container without patterns. -/
structure Library.Spares (lib : Library) (p : Part) : Prop where
  reached : lib.Reaches p
  hollow : p.IsHollow

theorem Library.Spares.patterns {p : Part} (h : lib.Spares p) : p.patterns lib = [] := by
  obtain ⟨path, e, around, rfl, hcontainer, hpatterns⟩ := h.hollow
  simp only [Part.patterns, Library.listed, Part.written, hcontainer, hpatterns]
  rfl

theorem Library.Spares.tasks {p : Part} (h : lib.Spares p) : p.tasks lib = [] := by
  have hpatterns := h.patterns
  obtain ⟨path, e, around, rfl, hcontainer, _⟩ := h.hollow
  simp only [Part.tasks, hcontainer, hpatterns, List.map_nil]

/-- Nothing follows from the visit to a hollow part. -/
theorem Library.Spares.visitParts_eq {p : Part} (h : lib.Spares p) (unseen : List Key)
    (tasks : List Part.Task) : visitParts engine lib unseen (.visit p :: tasks) =
      if p.key ∈ unseen then (visitParts engine lib (unseen.erase p.key) tasks).map (p :: ·)
      else visitParts engine lib unseen tasks := by
  rw [visitParts, h.tasks, List.nil_append]
  rfl

/-- Its rule stands for nothing. -/
theorem Library.Spares.contents? {p : Part} (h : lib.Spares p) {numbers : Numbering} {r : Rule ρ}
    (hr : p.rule engine lib numbers = .ok r) : r.contents? = some [] := by
  have hpatterns := h.patterns
  obtain ⟨path, e, around, rfl, hcontainer, _⟩ := h.hollow
  have hform := Part.rule_form hr
  simp only [hcontainer, hpatterns, List.filterMap_nil] at hform
  rw [Rule.contents?, hform]

/-! ## Parts that belong together -/

/-- Two tasks are visits to parts that belong together, or checks of one pattern. -/
inductive Part.Task.Like (T : Part → Part → Prop) : Part.Task → Part.Task → Prop
  | visit {p p' : Part} (h : T p p') : Like T (.visit p) (.visit p')
  | check (source : String) : Like T (.check source) (.check source)

/-- The visit to a hollow part. -/
def Library.SparesTask (lib : Library) (t : Part.Task) : Prop := ∃ p, t = .visit p ∧ lib.Spares p

/-- The tasks of two libraries go in step. -/
abbrev TasksAligned (lib lib' : Library) (T : Part → Part → Prop) :
    List Part.Task → List Part.Task → Prop :=
  Aligned (Part.Task.Like T) lib.SparesTask lib'.SparesTask

/-- The parts of two libraries go in step. -/
abbrev PartsAligned (lib lib' : Library) (T : Part → Part → Prop) : List Part → List Part → Prop :=
  Aligned T lib.Spares lib'.Spares

/-- Parts of two libraries belong together: what follows from such parts belongs together as well,
but for hollow parts, and they become the same rules, but for the numbers of what follows. -/
structure Library.Parallel (engine : RegexEngine ρ) (lib lib' : Library)
    (T : Part → Part → Prop) : Prop where
  keyed : lib.Keyed
  keyed' : lib'.Keyed
  base : lib.base = lib'.base
  root : Option.Rel T (lib.root lib.base) (lib'.root lib'.base)
  reached : ∀ {p p'}, T p p' → lib.Reaches p ∧ lib'.Reaches p'
  solid : ∀ {p p'}, T p p' → ¬ p.IsHollow ∧ ¬ p'.IsHollow
  key : ∀ {p p'}, T p p' → p.key = p'.key
  patterns : ∀ {p p'}, T p p' → PartsAligned lib lib' T (p.patterns lib) (p'.patterns lib')
  tasks : ∀ {p p'}, T p p' → TasksAligned lib lib' T (p.tasks lib) (p'.tasks lib')
  rule : ∀ {p p'}, T p p' → ∀ {R : RuleIndex → RuleIndex → Prop} {numbers numbers' : Numbering},
    (∀ q q', T q q' → Option.Rel R (numbers q.key) (numbers' q'.key)) →
    ∀ {r r' : Rule ρ}, p.rule engine lib numbers = .ok r → p'.rule engine lib' numbers' = .ok r' →
      r.Like R r'

/-! ## Visits -/

theorem Library.Reaches.written (hkeyed : lib.CapturesKeyed) {p : Part} (h : lib.Reaches p) :
    p.IsWritten lib := by
  induction h with
  | base hroot =>
      obtain ⟨d, hd, rfl⟩ := Option.map_eq_some_iff.1 hroot
      exact hd
  | step _ htask ih => exact (Part.leads_of_mem_tasks htask).isWritten hkeyed ih

/-- Of two parts with one key both are hollow or none. -/
theorem Library.Spares.of_key (hkeyed : lib.CapturesKeyed) {p q : Part} (h : lib.Spares q)
    (hp : lib.Reaches p) (hkey : p.key = q.key) : lib.Spares p := by
  obtain ⟨path, e, around, rfl, hhollow⟩ := h.hollow
  refine ⟨hp, ?_⟩
  cases p with
  | root scope d => cases hkey
  | contents which' path' e' around' => cases hkey
  | entry path' e' around' =>
      obtain ⟨hscope, rfl⟩ := Place.mk.inj (Key.entry.inj hkey)
      obtain ⟨d, haround, he⟩ := h.reached.written hkeyed
      have hsame := (hp.written hkeyed).entryAt? (hscope ▸ haround.document)
      obtain rfl := Option.some.inj (he.symm.trans hsame)
      exact ⟨path', e, around', rfl, hhollow⟩

/-- Parts are visited once. -/
theorem visitParts_nodup {unseen : List Key} {tasks : List Part.Task} {parts : List Part}
    (h : visitParts engine lib unseen tasks = .ok parts) (hunseen : unseen.Nodup) :
    (parts.map Part.key).Nodup ∧ parts.map Part.key ⊆ unseen := by
  fun_induction visitParts engine lib unseen tasks generalizing parts with
  | case1 =>
      obtain rfl := Except.ok.inj h
      exact ⟨List.Pairwise.nil, List.nil_subset _⟩
  | case2 unseen source tasks _ _ ih => exact ih h hunseen
  | case3 => cases h
  | case4 unseen p tasks hp _ _ ih =>
      obtain ⟨rest, hrest, rfl⟩ := map_cons_eq_ok h
      obtain ⟨hnodup, hsubset⟩ := ih hrest (hunseen.erase p.key)
      rw [List.map_cons]
      refine ⟨List.nodup_cons.2 ⟨fun hmem => ?_, hnodup⟩, List.cons_subset.2 ⟨hp, ?_⟩⟩
      · exact (hunseen.mem_erase_iff.1 (hsubset hmem)).1 rfl
      · exact List.Subset.trans hsubset List.erase_subset
  | case5 unseen p tasks hp ih => exact ih h hunseen

namespace Library.Parallel

variable {T : Part → Part → Prop} (h : lib.Parallel engine lib' T)

include h

/-- A hollow part has another key than a part that belongs to one of the other library. -/
theorem key_ne {p p' q : Part} (hp : T p p') (hq : lib.Spares q) : p.key ≠ q.key :=
  fun hkey => (h.solid hp).1 (hq.of_key h.keyed.capturesKeyed (h.reached hp).1 hkey).hollow

theorem key_ne' {p p' q : Part} (hp : T p p') (hq : lib'.Spares q) : p'.key ≠ q.key :=
  fun hkey => (h.solid hp).2 (hq.of_key h.keyed'.capturesKeyed (h.reached hp).2 hkey).hollow

/-- Parts that belong together have been seen together. -/
def SeenTogether (T : Part → Part → Prop) (unseen unseen' : List Key) : Prop :=
  ∀ p p', T p p' → (p.key ∈ unseen ↔ p'.key ∈ unseen')

theorem seenTogether_keys : SeenTogether T lib.keys lib'.keys := by
  intro p p' hp
  obtain ⟨hreached, hreached'⟩ := h.reached hp
  have hknown := (hreached.written h.keyed.capturesKeyed).key_mem_keys
  have hknown' := (hreached'.written h.keyed'.capturesKeyed).key_mem_keys
  exact ⟨fun _ => hknown', fun _ => hknown⟩

section Seen

variable {unseen unseen' : List Key} (hseen : SeenTogether T unseen unseen')

include hseen

theorem seenTogether_erase (hnodup : unseen.Nodup) (hnodup' : unseen'.Nodup) {p p' : Part}
    (hp : T p p') :
    SeenTogether T (unseen.erase p.key) (unseen'.erase p'.key) := by
  intro q q' hq
  rw [← h.key hp, ← h.key hq]
  by_cases hsame : q.key = p.key
  · rw [hsame, hnodup.mem_erase_iff, hnodup'.mem_erase_iff]
    simp
  · rw [List.mem_erase_of_ne hsame, List.mem_erase_of_ne hsame, hseen q q' hq, h.key hq]

theorem seenTogether_erase_left {p : Part} (hp : lib.Spares p) :
    SeenTogether T (unseen.erase p.key) unseen' := by
  intro q q' hq
  rw [List.mem_erase_of_ne (h.key_ne hq hp)]
  exact hseen q q' hq

theorem seenTogether_erase_right {p : Part} (hp : lib'.Spares p) :
    SeenTogether T unseen (unseen'.erase p.key) := by
  intro q q' hq
  rw [List.mem_erase_of_ne (h.key_ne' hq hp)]
  exact hseen q q' hq

end Seen

/-- The outer induction is on what is unseen in the first library, the inner one on the tasks. -/
theorem visitParts_aligned {unseen unseen' : List Key} (hnodup : unseen.Nodup)
    (hnodup' : unseen'.Nodup) (hseen : SeenTogether T unseen unseen')
    {tasks tasks' : List Part.Task} (htasks : TasksAligned lib lib' T tasks tasks') :
    SameCourse (fun _ => False) (fun _ => False) (PartsAligned lib lib' T)
      (visitParts engine lib unseen tasks) (visitParts engine lib' unseen' tasks') := by
  obtain ⟨bound, hbound⟩ : ∃ bound, unseen.length ≤ bound := ⟨_, Nat.le_refl _⟩
  induction bound using Nat.strong_induction_on generalizing unseen unseen' tasks tasks' with
  | _ bound ih =>
      induction htasks generalizing unseen unseen' with
      | nil =>
          rw [visitParts, visitParts]
          exact .values .nil
      | @both t t' rest rest' ht hrest ihrest =>
          cases ht with
          | check source =>
              rw [visitParts, visitParts]
              cases Pattern.read engine source with
              | error e => exact .same e
              | ok _ => exact ihrest hnodup hnodup' hseen hbound
          | @visit p p' hp =>
              by_cases hmem : p.key ∈ unseen
              · have hmem' := (hseen p p' hp).1 hmem
                have hlength := List.length_erase_of_mem hmem
                have hpos := List.length_pos_of_mem hmem
                have hinside := ih (unseen.erase p.key).length (by omega) (hnodup.erase _)
                  (hnodup'.erase _) (h.seenTogether_erase hseen hnodup hnodup' hp)
                  ((h.tasks hp).append hrest) (Nat.le_refl _)
                rw [visitParts, dif_pos hmem, visitParts, dif_pos hmem']
                exact hinside.map (p :: ·) (p' :: ·) fun _ _ hparts => .both hp hparts
              · have hmem' := mt (hseen p p' hp).2 hmem
                rw [visitParts, dif_neg hmem, visitParts, dif_neg hmem']
                exact ihrest hnodup hnodup' hseen hbound
      | @left t rest rest' ht _ ihrest =>
          obtain ⟨q, rfl, hq⟩ := ht
          rw [hq.visitParts_eq]
          by_cases hmem : q.key ∈ unseen
          · have hlength := unseen.length_erase_le (a := q.key)
            have hinside := ihrest (hnodup.erase _) hnodup'
              (h.seenTogether_erase_left hseen hq) (by omega)
            have hvisited := hinside.map (q :: ·) id fun _ _ hparts => Aligned.left hq hparts
            rw [if_pos hmem]
            rwa [Except.map_id, id_eq] at hvisited
          · rw [if_neg hmem]
            exact ihrest hnodup hnodup' hseen hbound
      | @right t rest rest' ht _ ihrest =>
          obtain ⟨q, rfl, hq⟩ := ht
          rw [hq.visitParts_eq]
          by_cases hmem : q.key ∈ unseen'
          · have hinside := ihrest hnodup (hnodup'.erase _)
              (h.seenTogether_erase_right hseen hq) hbound
            have hvisited := hinside.map id (q :: ·) fun _ _ hparts => Aligned.right hq hparts
            rw [if_pos hmem]
            rwa [Except.map_id, id_eq] at hvisited
          · rw [if_neg hmem]
            exact ihrest hnodup hnodup' hseen hbound

end Library.Parallel

end ScopeCheck
