import Mathlib.Data.List.Forall2
import ScopeCheck.Proofs.Expectation.Failures
import ScopeCheck.Proofs.Expectation.Target

/-!
# The verdict on a line

Once a check means a line, its two lists are compared with the scopes recorded for the line.  Five
things can be wrong, and the first of them in a fixed order is the cause of the failure.

* `Evaluation.RecordedFor` are the scopes of a line, and `Evaluation.Occurs` says that a list has a
  needle in one of them;
* `Evaluation.Meets` says what a check demands of a line, `Evaluation.Problem` what can be wrong;
* `Evaluation.compare_eq_ok_iff` and `Evaluation.compare_eq_error_iff`: nothing is wrong, or the
  first problem is the result;
* `Evaluation.Occurs.gain`: what occurs still does when scopes are added;
* `Evaluation.check_judged` puts this together for checks that mean a line.
-/

namespace ScopeCheck

open ScopeCheck.Text

namespace Evaluation

variable {e e' : Evaluation} {c : Check} {line : Nat} {needles : List String}
  {cause : FailureCause}

/-! ## Scopes of a line -/

/-- A scope is recorded for a line: it is one of the record at the place of the line, counted from
one. -/
def RecordedFor (e : Evaluation) (line : Nat) (scope : String) : Prop :=
  ∃ index r, line = index + 1 ∧ e.records[index]? = some r ∧ scope ∈ r.scopes

/-- One of these needles occurs in a scope recorded for a line. -/
def Occurs (e : Evaluation) (line : Nat) (needles : List String) : Prop :=
  ∃ needle ∈ needles, ∃ scope, e.RecordedFor line scope ∧ needle.toList <:+: scope.toList

theorem mem_scopesOf_iff {scope : String} : scope ∈ e.scopesOf line ↔ e.RecordedFor line scope := by
  cases line with
  | zero => simp [scopesOf, RecordedFor]
  | succ index =>
      cases hr : e.records[index]? with
      | none => simp [scopesOf, RecordedFor, hr]
      | some r => simp [scopesOf, RecordedFor, hr]

theorem any_occursInScopes_iff :
    needles.any (occursInScopes (e.scopesOf line)) = true ↔ e.Occurs line needles := by
  simp only [List.any_eq_true, occursInScopes, occursIn_iff_infix, mem_scopesOf_iff, Occurs]

/-- In numbered records the scopes of a line are those of the record with its number. -/
theorem recordedFor_iff (h : Numbered e.records) {scope : String} :
    e.RecordedFor line scope ↔ ∃ r ∈ e.records, r.number = line ∧ scope ∈ r.scopes := by
  constructor
  · rintro ⟨index, r, rfl, hr, hscope⟩
    exact ⟨r, List.mem_of_getElem? hr, h index r hr, hscope⟩
  · rintro ⟨r, hr, rfl, hscope⟩
    obtain ⟨index, hindex⟩ := List.mem_iff_getElem?.1 hr
    exact ⟨index, r, h index r hindex, hindex, hscope⟩

/-! ## What is demanded, and what can be wrong -/

/-- What a check demands of a line. -/
structure Meets (e : Evaluation) (c : Check) (line : Nat) : Prop where
  hasAny_readable : ∀ shown, c.hasAny ≠ .invalid shown
  notHasAny_readable : ∀ shown, c.notHasAny ≠ .invalid shown
  some_list : c.hasAny ≠ .absent ∨ c.notHasAny ≠ .absent
  occurs : ∀ needles, c.hasAny = .value needles → e.Occurs line needles
  not_occurs : ∀ needles, c.notHasAny = .value needles → ¬ e.Occurs line needles

/-- What can be wrong with a check and a line, with its place in the order. -/
inductive Problem (e : Evaluation) (c : Check) (line : Nat) : Nat → FailureCause → Prop
  | invalidHasAny {shown : String} (hlist : c.hasAny = .invalid shown) :
      Problem e c line 0 (.invalidField "hasAny" shown)
  | noneFound {needles : List String} (hlist : c.hasAny = .value needles)
      (hnone : ¬ e.Occurs line needles) : Problem e c line 1 (.expectedAny needles)
  | invalidNotHasAny {shown : String} (hlist : c.notHasAny = .invalid shown) :
      Problem e c line 2 (.invalidField "notHasAny" shown)
  | someFound {needles : List String} (hlist : c.notHasAny = .value needles)
      (hsome : e.Occurs line needles) : Problem e c line 3 (.expectedNone needles)
  | noList (hany : c.hasAny = .absent) (hnone : c.notHasAny = .absent) :
      Problem e c line 4 .missingAssertion

/-- The first of the problems of a check and a line. -/
def FirstProblem (e : Evaluation) (c : Check) (line : Nat) (cause : FailureCause) : Prop :=
  ∃ place, e.Problem c line place cause ∧
    ∀ earlier < place, ∀ other, ¬ e.Problem c line earlier other

/-- Nothing is wrong with the first list: it is missing, or one of its needles occurs. -/
def HasAnyHolds (e : Evaluation) (c : Check) (line : Nat) : Prop :=
  c.hasAny = .absent ∨ ∃ needles, c.hasAny = .value needles ∧ e.Occurs line needles

/-- A line meets a check if and only if there is no problem. -/
theorem meets_iff : e.Meets c line ↔ ∀ place cause, ¬ e.Problem c line place cause := by
  constructor
  · intro hmeets place cause hproblem
    cases hproblem with
    | invalidHasAny hlist => exact hmeets.hasAny_readable _ hlist
    | noneFound hlist hnone => exact hnone (hmeets.occurs _ hlist)
    | invalidNotHasAny hlist => exact hmeets.notHasAny_readable _ hlist
    | someFound hlist hsome => exact hmeets.not_occurs _ hlist hsome
    | noList hany hnone => exact hmeets.some_list.elim (· hany) (· hnone)
  · intro hnone
    refine ⟨?_, ?_, ?_, ?_, ?_⟩
    · intro shown hlist
      exact hnone _ _ (.invalidHasAny hlist)
    · intro shown hlist
      exact hnone _ _ (.invalidNotHasAny hlist)
    · by_contra hmissing
      rw [not_or, not_not, not_not] at hmissing
      exact hnone _ _ (.noList hmissing.1 hmissing.2)
    · intro needles hlist
      by_contra hoccurs
      exact hnone _ _ (.noneFound hlist hoccurs)
    · intro needles hlist hoccurs
      exact hnone _ _ (.someFound hlist hoccurs)

/-- If there is a problem, one of them is the first. -/
theorem exists_firstProblem {place : Nat} (h : e.Problem c line place cause) :
    ∃ first, e.FirstProblem c line first := by
  -- Either it is the first one itself, or there is one at an earlier place.
  induction place using Nat.strong_induction_on generalizing cause with
  | _ place ih =>
      by_cases hearlier : ∃ earlier < place, ∃ other, e.Problem c line earlier other
      · obtain ⟨earlier, hlt, other, hother⟩ := hearlier
        exact ih earlier hlt hother
      · push Not at hearlier
        exact ⟨cause, place, h, hearlier⟩

theorem hasAnyHolds_of_not (hinvalid : ∀ other, ¬ e.Problem c line 0 other)
    (hnone : ∀ other, ¬ e.Problem c line 1 other) : e.HasAnyHolds c line := by
  cases hany : c.hasAny with
  | absent => exact Or.inl hany
  | invalid shown => exact absurd (.invalidHasAny hany) (hinvalid _)
  | value needles =>
      refine Or.inr ⟨needles, hany, ?_⟩
      by_contra hoccurs
      exact hnone _ (.noneFound hany hoccurs)

/-- When nothing is wrong with the first list, it is up to the second one. -/
theorem compare_of_hasAnyHolds (h : e.HasAnyHolds c line) :
    compare c (e.scopesOf line) =
      match c.notHasAny with
      | .invalid shown => .error (.invalidField "notHasAny" shown)
      | .value needles =>
        if needles.any (occursInScopes (e.scopesOf line)) then .error (.expectedNone needles)
        else .ok ()
      | .absent => if c.hasAny.isMissing then .error .missingAssertion else .ok () := by
  rcases h with hany | ⟨needles, hany, hoccurs⟩
  · rw [compare, hany]
    cases c.notHasAny with
    | absent => rfl
    | invalid shown => rfl
    | value excluded =>
        simp only [Lenient.get, Lenient.isMissing, Bool.and_false, Bool.false_eq_true, if_false,
          bind, Except.bind]
        split <;> rfl
  · rw [← any_occursInScopes_iff] at hoccurs
    have hnot : ¬ (!needles.any (occursInScopes (e.scopesOf line))) = true := by simp [hoccurs]
    rw [compare, hany]
    -- A needle occurs, so that what follows is the same as without the list.
    refine (if_neg hnot).trans ?_
    cases c.notHasAny with
    | absent => rfl
    | invalid shown => rfl
    | value excluded =>
        simp only [Lenient.get, Lenient.isMissing, Bool.and_false, Bool.false_eq_true, if_false,
          bind, Except.bind]
        split <;> rfl

/-- The first problem is the result of the comparison. -/
theorem compare_of_firstProblem (h : e.FirstProblem c line cause) :
    compare c (e.scopesOf line) = .error cause := by
  obtain ⟨place, hproblem, hfirst⟩ := h
  -- Only if nothing is wrong with the first list, a problem of the second one comes first.
  have hholds (hplace : 1 < place) : e.HasAnyHolds c line :=
    hasAnyHolds_of_not (hfirst 0 (by omega)) (hfirst 1 hplace)
  cases hproblem with
  | invalidHasAny hlist =>
      rw [compare, hlist]
      rfl
  | noneFound hlist hnone =>
      rw [← any_occursInScopes_iff, Bool.not_eq_true, ← Bool.not_eq_true'] at hnone
      rw [compare, hlist]
      exact if_pos hnone
  | invalidNotHasAny hlist =>
      rw [compare_of_hasAnyHolds (hholds (by omega)), hlist]
  | someFound hlist hsome =>
      rw [← any_occursInScopes_iff] at hsome
      rw [compare_of_hasAnyHolds (hholds (by omega)), hlist]
      exact if_pos hsome
  | noList hany hnone =>
      rw [compare_of_hasAnyHolds (hholds (by omega)), hnone, hany]
      rfl

/-- Without a problem the comparison is passed. -/
theorem compare_of_meets (h : e.Meets c line) : compare c (e.scopesOf line) = .ok () := by
  rw [meets_iff] at h
  rw [compare_of_hasAnyHolds (hasAnyHolds_of_not (h 0) (h 1))]
  cases hlist : c.notHasAny with
  | invalid shown => exact absurd (.invalidNotHasAny hlist) (h _ _)
  | value needles =>
      have hnone : ¬ e.Occurs line needles := fun hsome => h _ _ (.someFound hlist hsome)
      rw [← any_occursInScopes_iff] at hnone
      exact if_neg hnone
  | absent =>
      cases hany : c.hasAny with
      | absent => exact absurd (.noList hany hlist) (h _ _)
      | value needles => rfl
      | invalid shown => rfl

theorem compare_eq_ok_iff : compare c (e.scopesOf line) = .ok () ↔ e.Meets c line := by
  constructor
  · intro hok
    rw [meets_iff]
    intro place cause hproblem
    obtain ⟨first, hfirst⟩ := exists_firstProblem hproblem
    rw [compare_of_firstProblem hfirst] at hok
    cases hok
  · exact compare_of_meets

theorem compare_eq_error_iff :
    compare c (e.scopesOf line) = .error cause ↔ e.FirstProblem c line cause := by
  constructor
  · intro herror
    have hfails : ¬ e.Meets c line := by
      intro hmeets
      rw [compare_of_meets hmeets] at herror
      cases herror
    rw [meets_iff] at hfails
    push Not at hfails
    obtain ⟨place, other, hproblem⟩ := hfails
    obtain ⟨first, hfirst⟩ := exists_firstProblem hproblem
    rw [compare_of_firstProblem hfirst] at herror
    exact Except.error.inj herror ▸ hfirst
  · exact compare_of_firstProblem

/-- A check that means a line passes if the line meets it. -/
theorem failureOf_eq_none_iff_meets {index : Nat} (htarget : e.target c = .ok line) :
    e.failureOf index c = none ↔ e.Meets c line := by
  rw [failureOf_eq_none_iff, Passes, ← compare_eq_ok_iff]
  constructor
  · rintro ⟨other, hother, hok⟩
    rw [htarget] at hother
    exact Except.ok.inj hother ▸ hok
  · intro hok
    exact ⟨line, htarget, hok⟩

/-- The cause of its failure is the first problem. -/
theorem cause_failureOf_iff {index : Nat} (htarget : e.target c = .ok line) :
    (∃ f, e.failureOf index c = some f ∧ f.cause = cause) ↔ e.FirstProblem c line cause := by
  rw [← compare_eq_error_iff, failureOf, htarget]
  cases hcompare : compare c (e.scopesOf line) with
  | error other => simp [hcompare, failure]
  | ok => simp [hcompare]

end Evaluation

/-! ## The two lists -/

/-- The check of the same line that demands one of these needles, and nothing else. -/
def Check.demanding (c : Check) (needles : List String) : Check :=
  { c with hasAny := .value needles, notHasAny := .absent }

/-- The check of the same line that excludes these needles, and nothing else. -/
def Check.excluding (c : Check) (needles : List String) : Check :=
  { c with hasAny := .absent, notHasAny := .value needles }

namespace Evaluation

variable {e e' : Evaluation} {c : Check} {line : Nat} {needles : List String}

theorem meets_demanding_iff : e.Meets (c.demanding needles) line ↔ e.Occurs line needles := by
  constructor
  · intro hmeets
    exact hmeets.occurs needles rfl
  · intro hoccurs
    refine ⟨?_, ?_, ?_, ?_, ?_⟩ <;> simp [Check.demanding, hoccurs]

theorem meets_excluding_iff : e.Meets (c.excluding needles) line ↔ ¬ e.Occurs line needles := by
  constructor
  · intro hmeets
    exact hmeets.not_occurs needles rfl
  · intro hoccurs
    refine ⟨?_, ?_, ?_, ?_, ?_⟩ <;> simp [Check.excluding, hoccurs]

/-! ## More scopes -/

/-- A record of the same line with all scopes of another one, and perhaps more. -/
structure HasMoreScopes (r r' : RecordedLine) : Prop where
  number_eq : r'.number = r.number
  text_eq : r'.text = r.text
  scopes_subset : r.scopes ⊆ r'.scopes

/-- The records of another evaluation are the same, but for scopes that have been added. -/
def Gains (e e' : Evaluation) : Prop := List.Forall₂ HasMoreScopes e.records e'.records

/-- What an evaluation sees of a record when it looks for a line. -/
def outline (r : RecordedLine) : Nat × String := (r.number, r.text)

theorem Gains.outline_eq (h : e.Gains e') : e'.records.map outline = e.records.map outline := by
  unfold Gains at h
  generalize e.records = records, e'.records = records' at h ⊢
  induction h with
  | nil => rfl
  | cons hmore _ ih =>
      rw [List.map_cons, List.map_cons, ih, outline, outline, hmore.number_eq, hmore.text_eq]

/-- A search among the records that asks for texts alone finds the same line. -/
theorem Gains.find?_eq (h : e.Gains e') (count : Nat) (p : String → Bool) :
    ((e'.records.drop count).find? fun r => p r.text).map RecordedLine.number =
      ((e.records.drop count).find? fun r => p r.text).map RecordedLine.number := by
  have hlook : ∀ records : List RecordedLine,
      ((records.drop count).find? fun r => p r.text).map RecordedLine.number =
        (((records.map outline).drop count).find? fun r => p r.2).map Prod.fst := by
    intro records
    rw [← List.map_drop, List.find?_map, Option.map_map]
    rfl
  rw [hlook, hlook, h.outline_eq]

/-- The line that a check means does not depend on scopes. -/
theorem Gains.target_eq (h : e.Gains e') : e'.target c = e.target c := by
  have hwith : e'.lineWith = e.lineWith := by
    funext text
    exact h.find?_eq 0 fun t => occursIn text.toList t.toList
  have hafter : e'.firstTextAfter = e.firstTextAfter := by
    funext count
    exact h.find?_eq count fun t => !allBlank t.toList
  have hmatch : e'.lineAfterMatch = e.lineAfterMatch := by
    funext text
    rw [lineAfterMatch, lineAfterMatch, hwith, hafter]
  have hline : e'.lineAfterLine = e.lineAfterLine := by
    funext field
    rw [lineAfterLine, lineAfterLine, hafter]
  rw [target, target, hwith, hmatch, hline]

theorem RecordedFor.gain (h : e.Gains e') {scope : String} (hscope : e.RecordedFor line scope) :
    e'.RecordedFor line scope := by
  obtain ⟨index, r, rfl, hr, hscope⟩ := hscope
  obtain ⟨hindex, rfl⟩ := List.getElem?_eq_some_iff.1 hr
  obtain ⟨hlength, hmore⟩ := List.forall₂_iff_get.1 h
  exact ⟨index, _, rfl, List.getElem?_eq_getElem (hlength ▸ hindex),
    (hmore index hindex (hlength ▸ hindex)).scopes_subset hscope⟩

/-- What occurs still does when scopes are added. -/
theorem Occurs.gain (h : e.Gains e') (hoccurs : e.Occurs line needles) :
    e'.Occurs line needles := by
  obtain ⟨needle, hneedle, scope, hscope, hinfix⟩ := hoccurs
  exact ⟨needle, hneedle, scope, hscope.gain h, hinfix⟩

/-! ## The verdict -/

/-- How a check that means a line is judged. -/
structure Judged (e : Evaluation) (c : Check) (line : Nat) : Prop where
  /-- It passes if the line meets it. -/
  passes_iff : ∀ index, e.failureOf index c = none ↔ e.Meets c line
  /-- Otherwise the first problem is the cause of the failure. -/
  cause_iff : ∀ index cause,
    (∃ f, e.failureOf index c = some f ∧ f.cause = cause) ↔ e.FirstProblem c line cause
  /-- In numbered records the scopes of the line are those of the record with its number. -/
  recorded_iff : Numbered e.records → ∀ scope,
    e.RecordedFor line scope ↔ ∃ r ∈ e.records, r.number = line ∧ scope ∈ r.scopes
  /-- Of the two checks with the same needles exactly one passes. -/
  one_passes : ∀ index needles, e.failureOf index (c.demanding needles) = none ↔
    ¬ e.failureOf index (c.excluding needles) = none
  /-- A check that demands needles still passes when scopes are added. -/
  still_passes : ∀ e' index, e.Gains e' → c.notHasAny = .absent →
    e.failureOf index c = none → e'.failureOf index c = none
  /-- A check that excludes needles still fails when scopes are added. -/
  still_fails : ∀ e' index, e.Gains e' → c.hasAny = .absent →
    e.failureOf index c ≠ none → e'.failureOf index c ≠ none

theorem Meets.gain (h : e.Gains e') (hnone : c.notHasAny = .absent) (hmeets : e.Meets c line) :
    e'.Meets c line where
  hasAny_readable := hmeets.hasAny_readable
  notHasAny_readable := hmeets.notHasAny_readable
  some_list := hmeets.some_list
  occurs := by
    intro needles hlist
    exact (hmeets.occurs needles hlist).gain h
  not_occurs := by
    intro needles hlist
    rw [hnone] at hlist
    cases hlist

theorem Meets.lose (h : e.Gains e') (hany : c.hasAny = .absent) (hmeets : e'.Meets c line) :
    e.Meets c line where
  hasAny_readable := hmeets.hasAny_readable
  notHasAny_readable := hmeets.notHasAny_readable
  some_list := hmeets.some_list
  occurs := by
    intro needles hlist
    rw [hany] at hlist
    cases hlist
  not_occurs := by
    intro needles hlist hoccurs
    exact hmeets.not_occurs needles hlist (hoccurs.gain h)

/-- A check that means a line is judged by what its two lists say of the scopes of the line. -/
theorem check_judged (htarget : e.target c = .ok line) : e.Judged c line where
  passes_iff := fun _ => failureOf_eq_none_iff_meets htarget
  cause_iff := fun _ _ => cause_failureOf_iff htarget
  recorded_iff := fun hnumbered _ => recordedFor_iff hnumbered
  one_passes := by
    intro index needles
    have hdemanding : e.target (c.demanding needles) = .ok line := htarget
    have hexcluding : e.target (c.excluding needles) = .ok line := htarget
    rw [failureOf_eq_none_iff_meets hdemanding, failureOf_eq_none_iff_meets hexcluding,
      meets_demanding_iff, meets_excluding_iff, not_not]
  still_passes := by
    intro e' index hgains hnone
    have htarget' : e'.target c = .ok line := hgains.target_eq.trans htarget
    rw [failureOf_eq_none_iff_meets htarget, failureOf_eq_none_iff_meets htarget']
    exact Meets.gain hgains hnone
  still_fails := by
    intro e' index hgains hany
    have htarget' : e'.target c = .ok line := hgains.target_eq.trans htarget
    rw [ne_eq, ne_eq, failureOf_eq_none_iff_meets htarget, failureOf_eq_none_iff_meets htarget']
    exact mt (Meets.lose hgains hany)

end Evaluation

namespace Sample

/-- A check whose lists cannot both hold of a line with the scope `x.y`. -/
def tornCheck : Check where
  containing := some "a"
  line := .absent
  afterMatch := none
  afterLine := .absent
  hasAny := .value ["y", "z"]
  notHasAny := .value ["x"]
  note := none

end Sample

namespace Evaluation

open Sample in
theorem sample_check_judged :
    let e : Evaluation := ⟨"f", [⟨1, "a", ["x.y"]⟩], 25⟩
    e.target tornCheck = .ok 1 ∧ e.Judged tornCheck 1 ∧
      (e.failureOf 0 tornCheck).map FailedCheck.cause = some (.expectedNone ["x"]) :=
  ⟨rfl, check_judged rfl, rfl⟩

end Evaluation

end ScopeCheck
