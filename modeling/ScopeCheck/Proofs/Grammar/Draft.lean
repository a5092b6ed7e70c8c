import ScopeCheck.Proofs.Grammar.Pending
import ScopeCheck.Proofs.Grammar.Reading

/-!
# Filling the table of rules

A table of rules can be filled while its parts are visited: a part gets an empty slot, then follow
the visits and checks that it leads to, and only when all of these are done its rule is put into the
slot.  Until then other rules may refer to the slot by its number.  A grammar or an entry keeps the
slot that it has; the patterns of a capture get a new one at every visit.  `Drafts` is this work,
without any bound on it; `Draft` is the table.

* `Part.rule_congr`: the rule of a part depends only on the numbers of what follows from the part;
* `Drafts.adds`: slots are only added, and each one is filled in the end, with the rule that the
  part has under the final numbers;
* `Drafts.pending`: no key has two slots, as the patterns of a capture are visited once for each
  use;
* `Drafts.unique`, `Drafts.exists_result`: there is exactly one result, so the work ends;
* `Drafts.visitParts_eq`: it visits what `visitParts` visits, and is refused where that is.

`Drafts.compile_eq` and `Drafts.compile_eq_error` say that `Grammar.compile` gives the table that is
filled in this way.
-/

namespace ScopeCheck

variable {ρ : Type} {engine : RegexEngine ρ} {lib : Library}

/-! ## Numbers that a rule depends on -/

namespace Part

/-- The patterns of captures that are in use are visited after the entry. -/
theorem visit_mem_tasks_of_captures {path : List Step} {e : Entry} {around : Surroundings}
    {which : CaptureMap} (hwhich : which ∈ e.shape.captureMaps) {q : Part}
    (hq : q ∈ captureContents path e (Part.entry path e around).inner which) :
    .visit q ∈ (Part.entry path e around).tasks lib := by
  have hvisit : Task.visit q ∈
      (captureContents path e (Part.entry path e around).inner which).map Task.visit :=
    List.mem_map.2 ⟨q, hq, rfl⟩
  rw [tasks]
  cases hshape : e.shape with
  | container =>
      rw [hshape] at hwhich
      cases hwhich
  | single source =>
      rw [hshape] at hwhich
      obtain rfl := List.mem_singleton.1 hwhich
      exact List.mem_cons_of_mem _ hvisit
  | region first last =>
      rw [hshape, Shape.captureMaps, List.mem_cons, List.mem_singleton] at hwhich
      rcases hwhich with rfl | rfl
      · exact List.mem_append_left _ (List.mem_append_right _ (List.mem_cons_of_mem _ hvisit))
      · exact List.mem_append_right _ (List.mem_cons_of_mem _ hvisit)
  | during first condition =>
      rw [hshape, Shape.captureMaps, List.mem_cons, List.mem_singleton] at hwhich
      rcases hwhich with rfl | rfl
      · exact List.mem_append_left _ (List.mem_append_right _ (List.mem_cons_of_mem _ hvisit))
      · exact List.mem_append_right _ (List.mem_cons_of_mem _ hvisit)

variable {numbers numbers' : Numbering}

/-- The rules for groups depend only on the numbers of the patterns inside the captures. -/
theorem groupRules_congr {path : List Step} {e : Entry} {around : Surroundings} {which : CaptureMap}
    (h : ∀ q ∈ captureContents path e (Part.entry path e around).inner which,
      numbers q.key = numbers' q.key) :
    Part.groupRules numbers path e around which = Part.groupRules numbers' path e around which := by
  unfold Part.groupRules
  refine List.foldl_ext _ _ _ ?_
  rintro rules ⟨number, steps, capture⟩ hmem
  cases hpatterns : capture.patterns with
  | none => simp only [hpatterns, Option.bind_none]
  | some patterns =>
      have hcontents : Part.contents which steps capture (Part.entry path e around).inner ∈
          captureContents path e (Part.entry path e around).inner which := by
        refine List.mem_filterMap.2 ⟨(number, steps, capture), hmem, ?_⟩
        simp only [hpatterns, Option.map_some]
      have hsame := h _ hcontents
      rw [Part.key, inner_scope] at hsame
      simp only [hpatterns, Option.bind_some]
      rw [show numbers (.contents which ⟨around.scope, steps⟩) =
        numbers' (.contents which ⟨around.scope, steps⟩) from hsame]

/-- The rule of a part depends only on the numbers of what follows from it. -/
theorem rule_congr {p : Part} (h : ∀ q, .visit q ∈ p.tasks lib → numbers q.key = numbers' q.key) :
    p.rule engine lib numbers = p.rule engine lib numbers' := by
  have hpatterns : ((p.patterns lib).filterMap fun q => numbers q.key) =
      (p.patterns lib).filterMap fun q => numbers' q.key :=
    List.filterMap_congr fun q hq => h q (visit_mem_tasks hq)
  cases p with
  | root scope d => simp only [Part.rule, hpatterns]
  | contents which path e around => simp only [Part.rule, hpatterns]
  | entry path e around =>
      have hcaptures : ∀ which ∈ e.shape.captureMaps,
          Part.groupRules numbers path e around which =
            Part.groupRules numbers' path e around which :=
        fun which hwhich => groupRules_congr fun q hq => h q (visit_mem_tasks_of_captures hwhich hq)
      simp only [Part.rule, hpatterns]
      cases hshape : e.shape with
      | container => rfl
      | single source =>
          rw [hshape] at hcaptures
          simp only [hcaptures .whole (by simp [Shape.captureMaps])]
      | region first last =>
          rw [hshape] at hcaptures
          simp only [hcaptures .first (by simp [Shape.captureMaps]),
            hcaptures .last (by simp [Shape.captureMaps])]
      | during first condition =>
          rw [hshape] at hcaptures
          simp only [hcaptures .first (by simp [Shape.captureMaps]),
            hcaptures .condition (by simp [Shape.captureMaps])]

/-- Where all patterns have been checked, a part becomes a rule. -/
theorem exists_rule {p : Part} (numbers : Numbering)
    (h : ∀ source, .check source ∈ p.tasks lib →
      ∃ pattern, Pattern.read engine source = .ok pattern) :
    ∃ rule, p.rule engine lib numbers = .ok rule := by
  cases p with
  | root scope d => exact ⟨_, rfl⟩
  | contents which path e around => exact ⟨_, rfl⟩
  | entry path e around =>
      rw [tasks] at h
      simp only [Part.rule, bind, Except.bind, pure, Except.pure]
      cases hshape : e.shape with
      | container => exact ⟨_, rfl⟩
      | single source =>
          obtain ⟨own, hown⟩ := h source (by simp [hshape])
          exact ⟨_, by simp only [hown]; rfl⟩
      | region first last =>
          obtain ⟨begins, hbegins⟩ := h first (by simp [hshape])
          obtain ⟨ends, hends⟩ := h last (by simp [hshape])
          exact ⟨_, by simp only [hbegins, hends]; rfl⟩
      | during first condition =>
          obtain ⟨begins, hbegins⟩ := h first (by simp [hshape])
          obtain ⟨holds, hholds⟩ := h condition (by simp [hshape])
          exact ⟨_, by simp only [hbegins, hholds]; rfl⟩

end Part

/-- Later parts do not change the number of a key. -/
theorem numbering_append {parts : List Part} (more : List Part) {k : Key}
    (h : k ∈ parts.map Part.key) : numbering (parts ++ more) k = numbering parts k := by
  obtain ⟨id, hid⟩ := exists_numbering h
  rw [hid]
  unfold numbering at hid ⊢
  rw [List.map_append, List.findIdx?_append, hid, Option.some_or]

/-! ## Tables in the making -/

/-- A table that is being filled: the parts that have been met, each with its rule if it is
finished. -/
abbrev Draft (ρ : Type) := List (Part × Option (Rule ρ))

namespace Draft

/-- The parts that have been met. -/
def parts (draft : Draft ρ) : List Part := draft.map Prod.fst

/-- What these parts are known by. -/
def keys (draft : Draft ρ) : List Key := draft.parts.map Part.key

/-- Adds a slot for a part, still without a rule. -/
def reserve (draft : Draft ρ) (p : Part) : Draft ρ := draft ++ [(p, none)]

/-- Puts a rule into a slot. -/
def fill (draft : Draft ρ) (id : RuleIndex) (rule : Rule ρ) : Draft ρ :=
  draft.modify id fun slot => (slot.1, some rule)

variable {draft more : Draft ρ} {p : Part}

@[simp] theorem parts_append : parts (draft ++ more) = draft.parts ++ more.parts := List.map_append

@[simp] theorem keys_append : keys (draft ++ more) = draft.keys ++ more.keys := by
  rw [keys, parts_append, List.map_append, keys, keys]

@[simp] theorem keys_reserve : (draft.reserve p).keys = draft.keys ++ [p.key] := keys_append

/-- Filling a slot changes neither the parts nor the keys. -/
theorem parts_reserve_append (draft more : Draft ρ) (p : Part) (rule : Rule ρ) :
    (draft.reserve p ++ more).parts = (draft ++ (p, some rule) :: more).parts := by
  simp [parts, reserve]

theorem keys_reserve_append (draft more : Draft ρ) (p : Part) (rule : Rule ρ) :
    (draft.reserve p ++ more).keys = (draft ++ (p, some rule) :: more).keys :=
  congrArg (List.map Part.key) (parts_reserve_append draft more p rule)

/-- A slot that has been reserved is filled where it stands. -/
theorem fill_reserve (draft more : Draft ρ) (p : Part) (rule : Rule ρ) :
    fill (draft.reserve p ++ more) draft.length rule = draft ++ (p, some rule) :: more := by
  rw [fill, reserve, List.append_assoc, List.singleton_append]
  induction draft with
  | nil => rfl
  | cons slot draft ih => rw [List.length_cons, List.cons_append, List.modify_succ_cons, ih]; rfl

end Draft

/-- Works through visits and checks from the left, with a table of the parts that have been met
before.  The result is the table after all of them, or the refusal of a pattern. -/
inductive Drafts (engine : RegexEngine ρ) (lib : Library) : (draft : Draft ρ) →
    (tasks : List Part.Task) → (result : Except PatternError (Draft ρ)) → Prop
  | done {draft : Draft ρ} : Drafts engine lib draft [] (.ok draft)
  | accept {draft : Draft ρ} {tasks : List Part.Task} {result : Except PatternError (Draft ρ)}
      {source : String} {pattern : Pattern ρ} (read : Pattern.read engine source = .ok pattern)
      (rest : Drafts engine lib draft tasks result) :
      Drafts engine lib draft (.check source :: tasks) result
  | refuse {draft : Draft ρ} {tasks : List Part.Task} {source : String} {e : PatternError}
      (read : Pattern.read engine source = .error e) :
      Drafts engine lib draft (.check source :: tasks) (.error e)
  /-- A grammar or an entry that has been met keeps the slot that it has, finished or not. -/
  | known {draft : Draft ρ} {tasks : List Part.Task} {result : Except PatternError (Draft ρ)}
      {p : Part} (shared : p.IsShared) (met : p.key ∈ draft.keys)
      (rest : Drafts engine lib draft tasks result) :
      Drafts engine lib draft (.visit p :: tasks) result
  | abort {draft : Draft ρ} {tasks : List Part.Task} {p : Part} {e : PatternError}
      (new : p.IsShared → p.key ∉ draft.keys)
      (inside : Drafts engine lib (draft.reserve p) (p.tasks lib) (.error e)) :
      Drafts engine lib draft (.visit p :: tasks) (.error e)
  /-- The rule of a part is made when all that it leads to has been met. -/
  | finish {draft inner : Draft ρ} {tasks : List Part.Task}
      {result : Except PatternError (Draft ρ)} {p : Part} {rule : Rule ρ}
      (new : p.IsShared → p.key ∉ draft.keys)
      (inside : Drafts engine lib (draft.reserve p) (p.tasks lib) (.ok inner))
      (made : p.rule engine lib (numbering inner.parts) = .ok rule)
      (rest : Drafts engine lib (inner.fill draft.length rule) tasks result) :
      Drafts engine lib draft (.visit p :: tasks) result

/-- A part is visited when its slot has been reserved. -/
theorem Pending.reserve {draft : Draft ρ} {tasks : List Part.Task} {p : Part}
    (hkeyed : lib.CapturesKeyed) (h : Pending lib draft.keys (.visit p :: tasks))
    (hnew : p.IsShared → p.key ∉ draft.keys) :
    Pending lib (draft.reserve p).keys (p.tasks lib ++ tasks) := by
  rw [Draft.keys_reserve]
  exact h.visit hkeyed (h.new hnew)

/-- A slot has the rule that its part becomes, and all that follows from the part has been met. -/
structure Finished (engine : RegexEngine ρ) (lib : Library) (parts : List Part)
    (slot : Part × Option (Rule ρ)) : Prop where
  rule : ∃ rule, slot.2 = some rule ∧ slot.1.rule engine lib (numbering parts) = .ok rule
  met : ∀ q, .visit q ∈ slot.1.tasks lib → q.key ∈ parts.map Part.key

/-- A finished slot stays finished when other parts are met. -/
theorem Finished.append {parts : List Part} {slot : Part × Option (Rule ρ)}
    (h : Finished engine lib parts slot) (more : List Part) :
    Finished engine lib (parts ++ more) slot where
  rule := by
    obtain ⟨rule, hslot, hrule⟩ := h.rule
    refine ⟨rule, hslot, ?_⟩
    rw [← hrule]
    exact Part.rule_congr fun q hq => numbering_append more (h.met q hq)
  met := by
    intro q hq
    rw [List.map_append]
    exact List.mem_append_left _ (h.met q hq)

namespace Drafts

variable {draft : Draft ρ} {tasks : List Part.Task}

/-- What has become of a table when tasks have been worked through: these slots are new. -/
structure Adds (engine : RegexEngine ρ) (lib : Library) (draft : Draft ρ) (tasks : List Part.Task)
    (new : Draft ρ) : Prop where
  finished : ∀ slot ∈ new, Finished engine lib (draft ++ new).parts slot
  met : ∀ q, .visit q ∈ tasks → q.key ∈ (draft ++ new).keys
  checked : ∀ source, .check source ∈ tasks → ∃ pattern, Pattern.read engine source = .ok pattern

theorem Adds.done : Adds engine lib draft [] [] where
  finished := fun slot hslot => by cases hslot
  met := fun q hq => by cases hq
  checked := fun source hsource => by cases hsource

theorem Adds.accept {new : Draft ρ} {source : String} {pattern : Pattern ρ}
    (hread : Pattern.read engine source = .ok pattern) (h : Adds engine lib draft tasks new) :
    Adds engine lib draft (.check source :: tasks) new where
  finished := h.finished
  met := by
    intro q hq
    rcases List.mem_cons.1 hq with hcheck | hq
    · cases hcheck
    · exact h.met q hq
  checked := by
    intro other hother
    rcases List.mem_cons.1 hother with hsame | hother
    · obtain rfl := Part.Task.check.inj hsame
      exact ⟨pattern, hread⟩
    · exact h.checked other hother

theorem Adds.known {new : Draft ρ} {p : Part} (hmet : p.key ∈ draft.keys)
    (h : Adds engine lib draft tasks new) : Adds engine lib draft (.visit p :: tasks) new where
  finished := h.finished
  met := by
    intro q hq
    rcases List.mem_cons.1 hq with hfirst | hq
    · obtain rfl := Part.Task.visit.inj hfirst
      rw [Draft.keys_append]
      exact List.mem_append_left _ hmet
    · exact h.met q hq
  checked := by
    intro source hsource
    rcases List.mem_cons.1 hsource with hvisit | hsource
    · cases hvisit
    · exact h.checked source hsource

/-- The slot of `p` comes first, then those of what it leads to, then the others. -/
theorem Adds.finish {inner later : Draft ρ} {p : Part} {rule : Rule ρ}
    (hinside : Adds engine lib (draft.reserve p) (p.tasks lib) inner)
    (hmade : p.rule engine lib (numbering (draft.reserve p ++ inner).parts) = .ok rule)
    (h : Adds engine lib (draft ++ (p, some rule) :: inner) tasks later) :
    Adds engine lib draft (.visit p :: tasks) ((p, some rule) :: inner ++ later) := by
  have hfinal : draft ++ ((p, some rule) :: inner ++ later) =
      draft ++ (p, some rule) :: inner ++ later := (List.append_assoc _ _ _).symm
  have hparts := Draft.parts_reserve_append draft inner p rule
  constructor
  · rw [hfinal]
    have hfirst : Finished engine lib (draft.reserve p ++ inner).parts (p, some rule) :=
      ⟨⟨rule, rfl, hmade⟩, hinside.met⟩
    intro slot hslot
    rcases List.mem_append.1 hslot with hslot | hslot
    · -- What was finished before the later tasks stays finished.
      rw [Draft.parts_append, ← hparts]
      rcases List.mem_cons.1 hslot with rfl | hslot
      · exact hfirst.append later.parts
      · exact (hinside.finished slot hslot).append later.parts
    · exact h.finished slot hslot
  · rw [hfinal]
    intro q hq
    rcases List.mem_cons.1 hq with hfirst | hq
    · obtain rfl := Part.Task.visit.inj hfirst
      simp [Draft.keys, Draft.parts]
    · exact h.met q hq
  · intro source hsource
    rcases List.mem_cons.1 hsource with hvisit | hsource
    · cases hvisit
    · exact h.checked source hsource

/-- Slots are only added, and in the end each of them is finished. -/
theorem adds {result : Except PatternError (Draft ρ)}
    (h : Drafts engine lib draft tasks result) : ∀ final, result = .ok final →
      ∃ new, final = draft ++ new ∧ Adds engine lib draft tasks new := by
  induction h with
  | done =>
      intro final hfinal
      obtain rfl := Except.ok.inj hfinal
      exact ⟨[], (List.append_nil _).symm, .done⟩
  | accept hread rest ih =>
      intro final hfinal
      obtain ⟨new, rfl, hadds⟩ := ih final hfinal
      exact ⟨new, rfl, hadds.accept hread⟩
  | refuse => nofun
  | known hshared hmet rest ih =>
      intro final hfinal
      obtain ⟨new, rfl, hadds⟩ := ih final hfinal
      exact ⟨new, rfl, hadds.known hmet⟩
  | abort => nofun
  | finish hnew inside hmade rest ihinside ihrest =>
      intro final hfinal
      obtain ⟨inner, rfl, hinside⟩ := ihinside _ rfl
      rw [Draft.fill_reserve] at ihrest
      obtain ⟨later, rfl, hrest⟩ := ihrest final hfinal
      exact ⟨_, List.append_assoc _ _ _, .finish hinside hmade hrest⟩

/-- There is at most one result. -/
theorem unique {result result' : Except PatternError (Draft ρ)}
    (h : Drafts engine lib draft tasks result) (h' : Drafts engine lib draft tasks result') :
    result = result' := by
  induction h generalizing result' with
  | done =>
      cases h'
      rfl
  | accept hread rest ih =>
      cases h' with
      | accept _ rest' => exact ih rest'
      | refuse hread' => cases hread.symm.trans hread'
  | refuse hread =>
      cases h' with
      | accept hread' => cases hread.symm.trans hread'
      | refuse hread' => exact congrArg Except.error (Except.error.inj (hread.symm.trans hread'))
  | known hshared hmet rest ih =>
      cases h' with
      | known _ _ rest' => exact ih rest'
      | abort hnew => exact absurd hmet (hnew hshared)
      | finish hnew => exact absurd hmet (hnew hshared)
  | abort hnew inside ih =>
      cases h' with
      | known hshared hmet => exact absurd hmet (hnew hshared)
      | abort _ inside' => exact congrArg Except.error (Except.error.inj (ih inside'))
      | finish _ inside' => cases ih inside'
  | finish hnew inside hmade rest ihinside ihrest =>
      cases h' with
      | known hshared hmet => exact absurd hmet (hnew hshared)
      | abort _ inside' => cases ihinside inside'
      | finish _ inside' hmade' rest' =>
          obtain rfl := Except.ok.inj (ihinside inside')
          obtain rfl := Except.ok.inj (hmade.symm.trans hmade')
          exact ihrest rest'

/-- When tasks have been worked through, others can be left to do that could follow them. -/
theorem pending (hkeyed : lib.CapturesKeyed) {result : Except PatternError (Draft ρ)}
    (h : Drafts engine lib draft tasks result) {later : List Part.Task}
    (hpending : Pending lib draft.keys (tasks ++ later)) :
    ∀ final, result = .ok final → Pending lib final.keys later := by
  induction h generalizing later with
  | done =>
      intro final hfinal
      obtain rfl := Except.ok.inj hfinal
      exact hpending
  | accept hread rest ih => exact ih (hpending.sublist (List.sublist_cons_self _ _))
  | refuse => nofun
  | known hshared hmet rest ih => exact ih (hpending.sublist (List.sublist_cons_self _ _))
  | abort => nofun
  | @finish draft inner tasks result p rule hnew inside hmade rest ihinside ihrest =>
      have hvisit := hpending.reserve hkeyed hnew
      obtain ⟨new, rfl, -⟩ := inside.adds _ rfl
      refine ihrest ?_
      rw [Draft.fill_reserve, ← Draft.keys_reserve_append]
      exact ihinside hvisit _ rfl

/-! ## The work ends -/

/-- The keys of the library that are not among these. -/
def unmet (lib : Library) (met : List Key) : List Key := lib.keys.filter (· ∉ met)

theorem mem_unmet {p : Part} (hp : p.IsWritten lib) {met : List Key} :
    p.key ∈ unmet lib met ↔ p.key ∉ met := by
  simp [unmet, hp.key_mem_keys]

theorem length_unmet_append_le (lib : Library) (met more : List Key) :
    (unmet lib (met ++ more)).length ≤ (unmet lib met).length := by
  refine List.Sublist.length_le (List.monotone_filter_right _ fun k hk => ?_)
  simp only [List.mem_append, not_or, decide_eq_true_eq] at hk ⊢
  exact hk.1

section Ends

variable (hlib : lib.Keyed)

include hlib

/-- When a part is met, its key is no longer unmet. -/
theorem unmet_append_singleton (met : List Key) (k : Key) :
    unmet lib (met ++ [k]) = (unmet lib met).erase k := by
  rw [unmet, unmet, (hlib.keys_nodup.filter _).erase_eq_filter, List.filter_filter]
  refine List.filter_congr fun other _ => ?_
  rw [Bool.eq_iff_iff]
  simp [not_or, and_comm]

/-- There is a result for all tasks that can be left to do. -/
theorem exists_result (draft : Draft ρ) (tasks : List Part.Task)
    (hpending : Pending lib draft.keys tasks) : ∃ result, Drafts engine lib draft tasks result := by
  match tasks with
  | [] => exact ⟨_, .done⟩
  | .check source :: tasks =>
      cases hread : Pattern.read engine source with
      | error e => exact ⟨_, .refuse hread⟩
      | ok pattern =>
          obtain ⟨result, hresult⟩ := exists_result draft tasks
            (hpending.sublist (List.sublist_cons_self _ _))
          exact ⟨result, .accept hread hresult⟩
  | .visit p :: tasks =>
      have hp : p.IsWritten lib := hpending.written p List.mem_cons_self
      by_cases hmet : p.IsShared ∧ p.key ∈ draft.keys
      · obtain ⟨result, hresult⟩ := exists_result draft tasks
          (hpending.sublist (List.sublist_cons_self _ _))
        exact ⟨result, .known hmet.1 hmet.2 hresult⟩
      · have hnew : p.IsShared → p.key ∉ draft.keys := not_and.1 hmet
        -- There is one key less to be met inside of `p`, and no more afterwards.
        have hless :
            (unmet lib (draft.keys ++ [p.key])).length < (unmet lib draft.keys).length := by
          have hmem : p.key ∈ unmet lib draft.keys := (mem_unmet hp).2 (hpending.new hnew)
          rw [unmet_append_singleton hlib, List.length_erase_of_mem hmem]
          exact Nat.sub_lt (List.length_pos_of_mem hmem) Nat.one_pos
        have hvisit := hpending.reserve hlib.capturesKeyed hnew
        obtain ⟨inside, hinside⟩ := exists_result (draft.reserve p) (p.tasks lib)
          (hvisit.sublist (List.sublist_append_left _ _))
        cases inside with
        | error e => exact ⟨_, .abort hnew hinside⟩
        | ok inner =>
            have hrest := hinside.pending hlib.capturesKeyed hvisit _ rfl
            obtain ⟨new, rfl, hadds⟩ := hinside.adds _ rfl
            obtain ⟨rule, hmade⟩ := Part.exists_rule (numbering (draft.reserve p ++ new).parts)
              hadds.checked
            have hle := length_unmet_append_le lib draft.keys
              (Draft.keys ((p, some rule) :: new))
            rw [Draft.keys_reserve_append draft new p rule] at hrest
            obtain ⟨result, hresult⟩ := exists_result (draft ++ (p, some rule) :: new) tasks hrest
            refine ⟨result, .finish hnew hinside hmade ?_⟩
            rw [Draft.fill_reserve]
            exact hresult
termination_by ((unmet lib draft.keys).length, tasks.length)
decreasing_by
  all_goals simp_wf
  · exact Prod.Lex.right _ (by simp)
  · exact Prod.Lex.right _ (by simp)
  · exact Prod.Lex.left _ _ hless
  · rcases Nat.lt_or_eq_of_le hle with hlt | heq
    · exact Prod.Lex.left _ _ hlt
    · rw [heq]
      exact Prod.Lex.right _ (by simp)

/-- A part that has not been met is visited first, and then what it leads to. -/
theorem map_visitParts_visit {p : Part} (hp : p.IsWritten lib) (hnew : p.key ∉ draft.keys)
    (tasks : List Part.Task) :
    (visitParts engine lib (unmet lib draft.keys) (.visit p :: tasks)).map (draft.parts ++ ·) =
      (visitParts engine lib (unmet lib (draft.reserve p).keys) (p.tasks lib ++ tasks)).map
        ((draft.reserve p).parts ++ ·) := by
  rw [visitParts, dif_pos ((mem_unmet hp).2 hnew), Draft.keys_reserve, unmet_append_singleton hlib]
  cases visitParts engine lib ((unmet lib draft.keys).erase p.key) (p.tasks lib ++ tasks) with
  | error e => rfl
  | ok parts => exact congrArg Except.ok (by simp [Draft.reserve, Draft.parts])

/-- The parts that are met are those that `visitParts` visits, and both are refused alike.  Other
tasks may follow. -/
theorem visitParts_eq {result : Except PatternError (Draft ρ)}
    (h : Drafts engine lib draft tasks result) {later : List Part.Task}
    (hpending : Pending lib draft.keys (tasks ++ later)) :
    (visitParts engine lib (unmet lib draft.keys) (tasks ++ later)).map (draft.parts ++ ·) =
      result.bind fun final =>
        (visitParts engine lib (unmet lib final.keys) later).map (final.parts ++ ·) := by
  induction h generalizing later with
  | done => rfl
  | accept hread rest ih =>
      rw [List.cons_append, visitParts, hread]
      exact ih (hpending.sublist (List.sublist_cons_self _ _))
  | refuse hread =>
      rw [List.cons_append, visitParts, hread]
      rfl
  | @known draft tasks result p hshared hmet rest ih =>
      have hp : p.key ∉ unmet lib draft.keys := fun hmem =>
        (mem_unmet (hpending.written p List.mem_cons_self)).1 hmem hmet
      rw [List.cons_append, visitParts, dif_neg hp]
      exact ih (hpending.sublist (List.sublist_cons_self _ _))
  | @abort draft tasks p e hnew inside ih =>
      have hp : p.IsWritten lib := hpending.written p List.mem_cons_self
      rw [List.cons_append] at hpending ⊢
      rw [map_visitParts_visit hlib hp (hpending.new hnew)]
      exact ih (hpending.reserve hlib.capturesKeyed hnew)
  | @finish draft inner tasks result p rule hnew inside hmade rest ihinside ihrest =>
      have hp : p.IsWritten lib := hpending.written p List.mem_cons_self
      rw [List.cons_append] at hpending ⊢
      have hvisit := hpending.reserve hlib.capturesKeyed hnew
      have hrest := inside.pending hlib.capturesKeyed hvisit _ rfl
      rw [map_visitParts_visit hlib hp (hpending.new hnew), ihinside hvisit]
      obtain ⟨new, rfl, -⟩ := inside.adds _ rfl
      rw [Draft.fill_reserve, ← Draft.keys_reserve_append] at ihrest
      rw [← ihrest hrest, ← Draft.parts_reserve_append]
      rfl

end Ends

/-! ## The finished table -/

/-- Slots that are all filled with what their parts are mapped to hold the results of a `mapM`. -/
theorem exists_mapM {f : Part → Except PatternError (Rule ρ)} {slots : Draft ρ}
    (h : ∀ slot ∈ slots, ∃ rule, slot.2 = some rule ∧ f slot.1 = .ok rule) :
    ∃ rules, slots.parts.mapM f = .ok rules ∧ slots.map Prod.snd = rules.map some := by
  induction slots with
  | nil => exact ⟨[], rfl, rfl⟩
  | cons slot slots ih =>
      obtain ⟨rule, hslot, hrule⟩ := h slot List.mem_cons_self
      have hlater := fun other hother => h other (List.mem_cons_of_mem slot hother)
      obtain ⟨rules, hrules, hslots⟩ := ih hlater
      refine ⟨rule :: rules, ?_, ?_⟩
      · show (slot.1 :: Draft.parts slots).mapM f = _
        rw [List.mapM_cons, hrule, hrules]
        rfl
      · rw [List.map_cons, hslot, hslots, List.map_cons]

section Compiled

variable {base : Part}

/-- In the beginning, the visit to the base grammar is left to do. -/
theorem pending_base (hbase : lib.root lib.base = some base) :
    Pending lib (Draft.keys ([] : Draft ρ)) [.visit base] := by
  obtain ⟨d, hd, rfl⟩ := Option.map_eq_some_iff.1 hbase
  refine ⟨fun p hp => ?_, List.nodup_nil, nofun, nofun, List.nodup_nil⟩
  obtain rfl := Part.Task.visit.inj (List.mem_singleton.1 hp)
  exact hd

variable (hlib : lib.Keyed) (hbase : lib.root lib.base = some base)

include hlib hbase

theorem visitParts_base {result : Except PatternError (Draft ρ)}
    (h : Drafts engine lib [] [.visit base] result) :
    visitParts engine lib lib.keys [.visit base] = result.map Draft.parts := by
  have hall : unmet lib (Draft.keys ([] : Draft ρ)) = lib.keys := by
    simp [unmet, Draft.keys, Draft.parts]
  have hpending : Pending lib (Draft.keys ([] : Draft ρ)) ([.visit base] ++ []) :=
    pending_base hbase
  have hsame := h.visitParts_eq hlib hpending
  rw [hall, List.append_nil] at hsame
  have hstart : ∀ visited : Except PatternError (List Part),
      visited.map (Draft.parts ([] : Draft ρ) ++ ·) = visited := by
    intro visited
    cases visited with
    | error e => rfl
    | ok parts => rfl
  rw [hstart] at hsame
  rw [hsame]
  cases result with
  | error e => rfl
  | ok final =>
      show (visitParts engine lib (unmet lib final.keys) []).map (final.parts ++ ·) = _
      rw [visitParts]
      exact congrArg Except.ok (List.append_nil _)

/-- A refusal is what compiling results in. -/
theorem compile_eq_error {e : PatternError}
    (h : Drafts engine lib [] [.visit base] (.error e)) :
    Grammar.compile engine lib = .error e := by
  rw [Grammar.compile, hbase]
  simp only [bind, Except.bind, visitParts_base hlib hbase h, Except.map]

/-- Otherwise compiling results in the grammar with this table, which has no empty slots. -/
theorem compile_eq {final : Draft ρ} (h : Drafts engine lib [] [.visit base] (.ok final)) :
    ∃ g, Grammar.compile engine lib = .ok (some g) ∧ g.CompiledFrom engine lib final.parts ∧
      final.map Prod.snd = g.rules.toList.map some := by
  obtain ⟨_, rfl, hadds⟩ := h.adds _ rfl
  have hfinished : ∀ slot ∈ final, Finished engine lib final.parts slot := hadds.finished
  have hvisited : visitParts engine lib lib.keys [.visit base] = .ok final.parts :=
    visitParts_base hlib hbase h
  obtain ⟨rules, hrules, hslots⟩ := exists_mapM fun slot hslot => (hfinished slot hslot).rule
  have hcompiled : (Grammar.ofRules lib.base rules.toArray 0).CompiledFrom engine lib final.parts :=
    ⟨⟨base, hbase, hvisited⟩, rules, hrules, rfl⟩
  exact ⟨_, hcompiled.compile_eq, hcompiled, hslots⟩

end Compiled

end Drafts

end ScopeCheck
