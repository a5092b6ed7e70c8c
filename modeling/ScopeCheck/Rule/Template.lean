import ScopeCheck.Pattern.BackReference
import ScopeCheck.Text.Case

/-!
# Scope names with references

The name of a scope may quote what a pattern has matched: `$1` stands for the text of a group,
and the same in braces with `:/downcase` or `:/upcase` for the text in lower or upper case.  Dots
at the start of a quoted text are left out.  A reference to a group that has no text stays as it
is.
-/

namespace ScopeCheck

open ScopeCheck.Text

/-- The change of letter case that a reference asks for. -/
inductive CaseChange
  | asIs
  | lower
  | upper
  deriving DecidableEq, Repr

/-- Applies a change of letter case. -/
def CaseChange.apply : CaseChange → List Char → List Char
  | asIs, cs => cs
  | lower, cs => Text.lower cs
  | upper, cs => Text.upper cs

/-- A scope name that may have references. -/
structure Template where
  raw : String
  deriving DecidableEq, Inhabited, Repr

namespace Template

/-- A reference: its digits, the change of case, its text and what follows. -/
structure Reference where
  digits : List Char
  change : CaseChange
  text : List Char
  rest : List Char

/-- The ways in which a reference in braces goes on behind its digits. -/
def endings : List (List Char × CaseChange) :=
  [(":/downcase\x7d".toList, .lower), (":/upcase\x7d".toList, .upper)]

/-- Reads a reference behind its dollar sign. -/
def reference? (cs : List Char) : Option Reference :=
  match cs with
  | '{' :: inner =>
    let digits := inner.takeWhile BackReference.isDigit
    let rest := inner.dropWhile BackReference.isDigit
    if digits = [] then none
    else
      (endings.find? fun ending => ending.1.isPrefixOf rest).map fun ending =>
        ⟨digits, ending.2, '$' :: '{' :: (digits ++ ending.1), rest.drop ending.1.length⟩
  | cs =>
    let digits := cs.takeWhile BackReference.isDigit
    if digits = [] then none
    else some ⟨digits, .asIs, '$' :: digits, cs.dropWhile BackReference.isDigit⟩

/-- What stands for a reference. -/
def image (text : Array Char) (found : Found) (r : Reference) : List Char :=
  match (groupNumber? r.digits).bind found.span? with
  | some span => r.change.apply ((span.of text).dropWhile (· = '.'))
  | none => r.text

/-- Replaces references from the left; `fuel` is at least the number of characters. -/
def fillFrom (text : Array Char) (found : Found) : Nat → List Char → List Char
  | 0, cs => cs
  | _, [] => []
  | fuel + 1, '$' :: rest =>
    match reference? rest with
    | some r => image text found r ++ fillFrom text found fuel r.rest
    | none => '$' :: fillFrom text found fuel rest
  | fuel + 1, c :: rest => c :: fillFrom text found fuel rest

/-- Whether a reference starts somewhere. -/
def occur : List Char → Bool
  | '$' :: rest => (reference? rest).isSome || occur rest
  | _ :: rest => occur rest
  | [] => false

/-- The name with its references replaced, whether there are any or not. -/
def substitute (t : Template) (text : Array Char) (found : Found) : List Char :=
  fillFrom text found (t.raw.toList.length + 1) t.raw.toList

/-- The name with its references replaced.  A name without references is not gone through. -/
def fill (t : Template) (text : Array Char) (found : Found) : List Char :=
  if occur t.raw.toList then t.substitute text found else t.raw.toList

end Template

end ScopeCheck
