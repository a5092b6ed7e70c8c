import ScopeCheck.Expectation.Failure
import ScopeCheck.Fixture

/-!
# Reports

The dump shows every line of a fixture with its scopes; the failure report lists failed checks.
-/

namespace ScopeCheck.Report

open ScopeCheck.Text

/-- How a dump is laid out. -/
structure DumpStyle where
  /-- How many scopes of a line are shown. -/
  sampleSize : Nat
  /-- The least width of a line number. -/
  numberWidth : Nat
  deriving DecidableEq, Inhabited, Repr

/-- A number with blanks in front of it.  Every width is taken as it is; library functions for
this may refuse widths above 65535. -/
def paddedNumber (width number : Nat) : String :=
  let digits := Numeral.digits 10 number
  String.ofList (List.replicate (width - digits.length) ' ' ++ digits)

/-- The two lines of a dump for a record. -/
def recordText (style : DumpStyle) (r : RecordedLine) : String :=
  paddedNumber style.numberWidth r.number ++ " | " ++ r.text ++ "\n     scopes: " ++
    shownList (r.scopes.take style.sampleSize) ++ "\n"

/-- The dump of a fixture. -/
def dump (style : DumpStyle) (fixture : String) (records : List RecordedLine) : String :=
  "--- DUMP: " ++ fixture ++ " ---\n" ++ String.join (records.map (recordText style)) ++
    "--- END DUMP: " ++ fixture ++ " ---\n"

/-- The list of failed checks. -/
def failures (failed : List FailedCheck) : String :=
  "FAILURES:\n" ++ String.join (failed.map fun f => "- " ++ f.message ++ "\n")

/-- What is written when every check passes. -/
def pass : String := "PASS\n"

end ScopeCheck.Report
