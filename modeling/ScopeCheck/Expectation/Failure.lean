import ScopeCheck.Json.Value

/-!
# Failed checks

Why a check fails, and the wording of it.
-/

namespace ScopeCheck

open ScopeCheck.Text

/-- Why a check fails. -/
inductive FailureCause
  | unresolved
  | afterMatchNotFound (text : String)
  | noLineAfterMatch (text : String)
  | noLineAfterLine (line : Nat)
  | expectedAny (needles : List String)
  | expectedNone (needles : List String)
  | missingAssertion
  | invalidField (name text : String)
  deriving DecidableEq, Inhabited, Repr

/-- A list of texts as it is shown. -/
def shownList (items : List String) : String := (Json.array (items.map .string)).compact

/-- The wording of a cause. -/
def FailureCause.message : FailureCause → String
  | unresolved => "could not resolve target line"
  | afterMatchNotFound text => "afterMatch not found: " ++ text
  | noLineAfterMatch text => "no non-empty line after afterMatch: " ++ text
  | noLineAfterLine line => "no non-empty line after afterLine: " ++ Numeral.decimal line
  | expectedAny needles => "Expected any of: " ++ shownList needles
  | expectedNone needles => "Expected none of: " ++ shownList needles
  | missingAssertion => "missing hasAny/notHasAny"
  | invalidField name text => "invalid " ++ name ++ ": " ++ text

/-- A failed check, with what helps to find the defect. -/
structure FailedCheck where
  /-- The place of the check in its list, counted from zero. -/
  index : Nat
  fixture : String
  target : Option Nat
  note : Option String
  /-- Some of the scopes of the line. -/
  sample : List String
  cause : FailureCause
  deriving DecidableEq, Inhabited, Repr

/-- The text of a failure: its cause alone when no line was found, else three lines. -/
def FailedCheck.message (f : FailedCheck) : String :=
  let label := "check[" ++ Numeral.decimal f.index ++ "]"
  match f.target with
  | none => label ++ ": " ++ f.cause.message
  | some line =>
    let note := match f.note with
      | some note => if note = "" then "" else " (" ++ note ++ ")"
      | none => ""
    label ++ ": FAIL: " ++ f.fixture ++ ": " ++ label ++ " -> line " ++ Numeral.decimal line ++
      note ++ "\n" ++ f.cause.message ++ "\nScopes sample: " ++ shownList f.sample

end ScopeCheck
