import ScopeCheck.Proofs.Expectation.Failures
import ScopeCheck.Run.Document

/-!
# Checks are kept apart

Any values can stand in the array of an expectation file.  Each is read as a check on its own, and
what becomes of it depends on its own value and its place alone.

* `Files.readChecks_of_holds`: an array of values can always be read, whatever the values are;
* `Evaluation.mem_evaluate_ofJson_iff`: a failure is that of the value at its index;
* `Evaluation.checks_isolated`: two files that agree at an index have the same failure there, if
  any.
-/

namespace ScopeCheck

/-- The file at a path has this array of values as its checks. -/
def Files.HoldsChecks (files : Files) (path : String) (items : List Json) : Prop :=
  files.readAs path ExpectationFile.ofJson ExpectationFile.ofYaml? = .ok (.array items)

variable {files files' : Files} {path path' : String} {items items' : List Json} {index : Nat}

/-- There is a check for each value of an array that is not empty, whatever the values are. -/
theorem Files.readChecks_of_holds (h : files.HoldsChecks path items) (hitems : items ≠ []) :
    files.readChecks path = .ok (items.map Check.ofJson) := by
  unfold Files.HoldsChecks at h
  cases items with
  | nil => exact absurd rfl hitems
  | cons item items => rw [readChecks, h]

namespace Evaluation

variable {e : Evaluation} {f : FailedCheck}

/-- A failure is that of the value at its index. -/
theorem mem_evaluate_ofJson_iff : f ∈ e.evaluate (items.map Check.ofJson) ↔
    ∃ item, items[f.index]? = some item ∧ e.failureOf f.index (Check.ofJson item) = some f := by
  rw [mem_evaluate_iff, List.getElem?_map]
  constructor
  · rintro ⟨c, hc, hfailure⟩
    obtain ⟨item, hitem, rfl⟩ := Option.map_eq_some_iff.1 hc
    exact ⟨item, hitem, hfailure⟩
  · rintro ⟨item, hitem, hfailure⟩
    exact ⟨Check.ofJson item, by rw [hitem, Option.map_some], hfailure⟩

/-- Values that agree at an index have the same failure with this index. -/
theorem mem_evaluate_iff_of_agree (hagree : items[index]? = items'[index]?)
    (hindex : f.index = index) :
    f ∈ e.evaluate (items.map Check.ofJson) ↔ f ∈ e.evaluate (items'.map Check.ofJson) := by
  subst hindex
  rw [mem_evaluate_ofJson_iff, mem_evaluate_ofJson_iff, hagree]

/-- Two files with arrays of values that agree at an index can both be read, and the evaluation has
the same failure with this index for both, if any.  In any evaluation the indices of the failures
ascend, so that there is one failure for an index. -/
theorem checks_isolated (e : Evaluation) (h : files.HoldsChecks path items)
    (h' : files'.HoldsChecks path' items') (hitems : items ≠ []) (hitems' : items' ≠ [])
    (hagree : items[index]? = items'[index]?) :
    ∃ checks checks', files.readChecks path = .ok checks ∧ files'.readChecks path' = .ok checks' ∧
      (∀ f, f.index = index → (f ∈ e.evaluate checks ↔ f ∈ e.evaluate checks')) ∧
      ∀ checks, (e.evaluate checks).Pairwise fun f later => f.index < later.index := by
  refine ⟨items.map Check.ofJson, items'.map Check.ofJson, Files.readChecks_of_holds h hitems,
    Files.readChecks_of_holds h' hitems', ?_, ?_⟩
  · intro f hindex
    exact mem_evaluate_iff_of_agree hagree hindex
  · intro checks
    exact evaluate_listsFailures.ascending

end Evaluation

namespace Sample

/-- The text of an expectation file whose first check is a number. -/
def oddFirst : String := "\x7b\"checks\":[7,\x7b\"line\":1,\"hasAny\":[\"x\"]\x7d]\x7d"

/-- Another one, with the same second check between others that cannot be evaluated. -/
def brokenFirst : String :=
  "\x7b\"checks\":[\x7b\"hasAny\":0\x7d,\x7b\"line\":1,\"hasAny\":[\"x\"]\x7d,null]\x7d"

def twoExpectations : Files := .ofList
  [("c", .file (Text.encode oddFirst)), ("d", .file (Text.encode brokenFirst))]

/-- The check in common. -/
def secondCheck : Json :=
  .object [("hasAny", .array [.string "x"]), ("line", .number (.whole 1))]

/-- The checks of one of these files are those that its text is read as. -/
theorem holdsChecks_of_toOption {path text : String} {items : List Json}
    (htext : twoExpectations.readText path = .ok text) (hformat : Path.namesYaml path = false)
    (hread : (ExpectationFile.ofJson text).toOption = some (.array items)) :
    twoExpectations.HoldsChecks path items := by
  cases hvalue : ExpectationFile.ofJson text with
  | error f =>
      rw [hvalue] at hread
      cases hread
  | ok v =>
      rw [hvalue] at hread
      obtain rfl : v = .array items := Option.some.inj hread
      simp only [Files.HoldsChecks, Files.readAs, htext, hformat, hvalue]
      rfl

theorem oddFirst_holds : twoExpectations.HoldsChecks "c" [.number (.whole 7), secondCheck] :=
  holdsChecks_of_toOption rfl (by decide +kernel) (by decide +kernel)

theorem brokenFirst_holds : twoExpectations.HoldsChecks "d"
    [.object [("hasAny", .number (.whole 0))], secondCheck, .null] :=
  holdsChecks_of_toOption rfl (by decide +kernel) (by decide +kernel)

end Sample

open Sample in
theorem Evaluation.sample_checks_isolated :
    let e : Evaluation := ⟨"f", [⟨1, "a", ["y"]⟩], 25⟩
    let items := [.number (.whole 7), secondCheck]
    let items' := [.object [("hasAny", .number (.whole 0))], secondCheck, .null]
    twoExpectations.HoldsChecks "c" items ∧ twoExpectations.HoldsChecks "d" items' ∧
      items[1]? = items'[1]? ∧
      ∃ checks checks', twoExpectations.readChecks "c" = .ok checks ∧
        twoExpectations.readChecks "d" = .ok checks' ∧
        (∀ f, f.index = 1 → (f ∈ e.evaluate checks ↔ f ∈ e.evaluate checks')) ∧
        ∀ checks, (e.evaluate checks).Pairwise fun f later => f.index < later.index :=
  ⟨oddFirst_holds, brokenFirst_holds, rfl,
    checks_isolated _ oddFirst_holds brokenFirst_holds (List.cons_ne_nil _ _)
      (List.cons_ne_nil _ _) rfl⟩

end ScopeCheck
