import ScopeCheck.Expectation.Evaluate

/-!
# Failures of checks

A check passes if it is led to a line whose scopes are as it says; otherwise it has a failure, with
the index of the check.

* `Evaluation.failureOf_eq_none_iff`: the checks without a failure are those that pass;
* `Evaluation.evaluate_listsFailures`: the failures of a list of checks are those of its checks, in
  their order; `Evaluation.evaluate_eq_nil_iff`: there are none if and only if all checks pass.
-/

namespace ScopeCheck.Evaluation

variable {e : Evaluation} {c : Check} {checks : List Check} {index : Nat} {f : FailedCheck}

/-- A check is led to a line, and the scopes of the line are as it says. -/
def Passes (e : Evaluation) (c : Check) : Prop :=
  ∃ line, e.target c = .ok line ∧ compare c (e.scopesOf line) = .ok ()

theorem failureOf_eq_none_iff : e.failureOf index c = none ↔ e.Passes c := by
  unfold failureOf Passes
  cases e.target c with
  | error cause => simp
  | ok line =>
      cases hcompare : compare c (e.scopesOf line) with
      | error cause => simp [hcompare]
      | ok => simp [hcompare]

/-- A failure names its check. -/
theorem index_of_failureOf (h : e.failureOf index c = some f) : f.index = index := by
  unfold failureOf at h
  split at h
  · rw [← Option.some.inj h, failure]
  · split at h
    · rw [← Option.some.inj h, failure]
    · cases h

/-- The failures of a list of checks are those of its checks. -/
theorem mem_evaluate_iff : f ∈ e.evaluate checks ↔
    ∃ c, checks[f.index]? = some c ∧ e.failureOf f.index c = some f := by
  rw [evaluate, List.mem_filterMap]
  constructor
  · rintro ⟨failed, hfailed, hf⟩
    obtain rfl : failed = some f := hf
    obtain ⟨index, hindex, hfailure⟩ := List.mem_mapIdx.1 hfailed
    obtain rfl := index_of_failureOf hfailure
    exact ⟨checks[f.index], List.getElem?_eq_getElem hindex, hfailure⟩
  · rintro ⟨c, hc, hfailure⟩
    obtain ⟨hindex, rfl⟩ := List.getElem?_eq_some_iff.1 hc
    exact ⟨some f, List.mem_mapIdx.2 ⟨f.index, hindex, hfailure⟩, rfl⟩

/-- These are the failures of a list of checks, in the order of the checks. -/
structure ListsFailures (e : Evaluation) (checks : List Check) (failed : List FailedCheck) :
    Prop where
  mem_iff : ∀ f, f ∈ failed ↔ ∃ c, checks[f.index]? = some c ∧ e.failureOf f.index c = some f
  ascending : failed.Pairwise fun f later => f.index < later.index

theorem evaluate_listsFailures : e.ListsFailures checks (e.evaluate checks) where
  mem_iff := fun _ => mem_evaluate_iff
  ascending := by
    rw [evaluate, List.pairwise_filterMap, List.pairwise_iff_getElem]
    intro i j hi hj hij f hf later hlater
    -- A failure carries the index of its check, and these ascend.
    rw [id, List.getElem_mapIdx] at hf hlater
    rw [index_of_failureOf hf, index_of_failureOf hlater]
    exact hij

/-- There are no failures if and only if all checks pass. -/
theorem evaluate_eq_nil_iff : e.evaluate checks = [] ↔ ∀ c ∈ checks, e.Passes c := by
  rw [List.eq_nil_iff_forall_not_mem]
  constructor
  · intro hnone c hc
    obtain ⟨index, hindex, rfl⟩ := List.mem_iff_getElem.1 hc
    have hpasses : e.failureOf index checks[index] = none := by
      rw [Option.eq_none_iff_forall_ne_some]
      intro f hfailure
      obtain rfl := index_of_failureOf hfailure
      exact hnone f (mem_evaluate_iff.2 ⟨_, List.getElem?_eq_getElem hindex, hfailure⟩)
    exact failureOf_eq_none_iff.1 hpasses
  · intro hpass f hf
    obtain ⟨c, hc, hfailure⟩ := mem_evaluate_iff.1 hf
    rw [failureOf_eq_none_iff.2 (hpass c (List.mem_of_getElem? hc))] at hfailure
    cases hfailure

end ScopeCheck.Evaluation
