import ScopeCheck.Expectation.Check
import ScopeCheck.Expectation.Failure
import ScopeCheck.Fixture
import ScopeCheck.Text.Substring

/-!
# Evaluating checks

A check is led to a line: by a text that the line contains, else by its number, else by a text
or a number before it.  Then the scopes recorded for the line are compared with what the check says.
Checks do not influence each other.
-/

namespace ScopeCheck

open ScopeCheck.Text

/-- Whether a needle occurs in one of the scopes. -/
def occursInScopes (scopes : List String) (needle : String) : Bool :=
  scopes.any fun scope => occursIn needle.toList scope.toList

/-- The value of a field, or nothing when it is absent. -/
def Lenient.get {α : Type} (name : String) : Lenient α → Except FailureCause (Option α)
  | absent => .ok none
  | value v => .ok (some v)
  | invalid text => .error (.invalidField name text)

/-- The records of a fixture, and what failures show of them. -/
structure Evaluation where
  fixture : String
  records : List RecordedLine
  /-- How many scopes a failure shows. -/
  sampleSize : Nat

namespace Evaluation

/-- The number of the first line that contains a text. -/
def lineWith (e : Evaluation) (text : String) : Option Nat :=
  (e.records.find? fun r => occursIn text.toList r.text.toList).map RecordedLine.number

/-- The number of the first line that is not blank behind the first `count` lines. -/
def firstTextAfter (e : Evaluation) (count : Nat) : Option Nat :=
  ((e.records.drop count).find? fun r => !allBlank r.text.toList).map RecordedLine.number

/-- The scopes of a line, none when there is no such line. -/
def scopesOf (e : Evaluation) : Nat → List String
  | 0 => []
  | line + 1 => ((e.records[line]?).map RecordedLine.scopes).getD []

/-- The line behind the first one that contains a text. -/
def lineAfterMatch (e : Evaluation) (text : String) : Except FailureCause Nat :=
  match e.lineWith text with
  | none => .error (.afterMatchNotFound text)
  | some found =>
    match e.firstTextAfter found with
    | none => .error (.noLineAfterMatch text)
    | some line => .ok line

/-- The line behind one with a number, if there is a number. -/
def lineAfterLine (e : Evaluation) (field : Lenient Nat) : Except FailureCause Nat :=
  match field.get "afterLine" with
  | .error cause => .error cause
  | .ok none => .error .unresolved
  | .ok (some number) =>
    match e.firstTextAfter number with
    | none => .error (.noLineAfterLine number)
    | some line => .ok line

/-- The line that a check means. -/
def target (e : Evaluation) (c : Check) : Except FailureCause Nat :=
  match c.containing.bind e.lineWith with
  | some line => .ok line
  | none =>
    match c.line.get "line" with
    | .error cause => .error cause
    | .ok (some line) => .ok line
    | .ok none =>
      match c.afterMatch with
      | some text => e.lineAfterMatch text
      | none => e.lineAfterLine c.afterLine

/-- Compares the scopes of a line with what a check says. -/
def compare (c : Check) (scopes : List String) : Except FailureCause Unit := do
  if let some needles ← c.hasAny.get "hasAny" then
    if !needles.any (occursInScopes scopes) then throw (.expectedAny needles)
  if let some needles ← c.notHasAny.get "notHasAny" then
    if needles.any (occursInScopes scopes) then throw (.expectedNone needles)
  if c.hasAny.isMissing && c.notHasAny.isMissing then throw .missingAssertion

/-- A failure of a check. -/
def failure (e : Evaluation) (index : Nat) (c : Check) (line : Option Nat) (cause : FailureCause) :
    FailedCheck :=
  ⟨index, e.fixture, line, c.note, ((line.map e.scopesOf).getD []).take e.sampleSize, cause⟩

/-- The failure of a check, if it fails. -/
def failureOf (e : Evaluation) (index : Nat) (c : Check) : Option FailedCheck :=
  match e.target c with
  | .error cause => some (e.failure index c none cause)
  | .ok line =>
    match compare c (e.scopesOf line) with
    | .error cause => some (e.failure index c (some line) cause)
    | .ok () => none

/-- The failures of a list of checks, in order. -/
def evaluate (e : Evaluation) (checks : List Check) : List FailedCheck :=
  (checks.mapIdx e.failureOf).filterMap id

end Evaluation

end ScopeCheck
