import ScopeCheck.Found
import ScopeCheck.Text.Blank
import ScopeCheck.Text.Letter
import ScopeCheck.Text.Numeral

/-!
# References to the begin match

An end pattern may quote what the begin pattern has matched: a backslash with digits stands for
the text of a group.  `BackReference.substitute` puts the texts in, escaped so that they stand
for themselves.
-/

namespace ScopeCheck

open ScopeCheck.Text

/-- Numbers of groups lie below this. -/
def groupNumberBound : Nat := 18446744073709551616

/-- The number of a group, if the digits are plain ones and not too many. -/
def groupNumber? (digits : List Char) : Option Nat :=
  (Numeral.ofDigits? 10 digits).filter (· < groupNumberBound)

namespace BackReference

/-- A decimal digit of any script, in version 16 of Unicode: it knows more digits than the classes
of patterns do. -/
def isDigit (c : Char) : Bool := Text.isNewerDigit c.toNat

/-- Whether a source quotes the begin match. -/
def occur : List Char → Bool
  | '\\' :: c :: rest => isDigit c || occur (c :: rest)
  | _ :: rest => occur rest
  | [] => false

/-- Characters that have a meaning of their own in a pattern. -/
def isMeta (c : Char) : Bool :=
  ['-', '\\', '{', '}', '*', '+', '?', '|', '^', '$', '.', ',', '[', ']', '(', ')', '#'].contains c
    || isBlank c

/-- A text as a pattern that stands for it. -/
def quoted (text : List Char) : List Char :=
  text.flatMap fun c => if isMeta c then ['\\', c] else [c]

/-- The text of the group with these digits; empty when there is none. -/
def captured (text : Array Char) (found : Found) (digits : List Char) : List Char :=
  match (groupNumber? digits).bind found.span? with
  | some span => span.of text
  | none => []

/-- Puts the captured texts in.  `run` holds the digits that have been read since a backslash,
last first, if one stands before them. -/
def substituteFrom (image : List Char → List Char) : Option (List Char) → List Char → List Char
  | none, [] => []
  | some [], [] => ['\\']
  | some run, [] => image run.reverse
  | none, c :: rest =>
    if c = '\\' then substituteFrom image (some []) rest
    else c :: substituteFrom image none rest
  | some run, c :: rest =>
    if isDigit c then substituteFrom image (some (c :: run)) rest
    else
      let before := if run = [] then ['\\'] else image run.reverse
      if c = '\\' then before ++ substituteFrom image (some []) rest
      else before ++ c :: substituteFrom image none rest

/-- A source with the texts of the begin match put in. -/
def substitute (source : List Char) (text : Array Char) (found : Found) : List Char :=
  substituteFrom (fun digits => quoted (captured text found digits)) none source

end BackReference

end ScopeCheck
