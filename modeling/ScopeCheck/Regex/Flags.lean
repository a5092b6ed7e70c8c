import ScopeCheck.Regex.CharSet

/-!
# Options of a pattern

The options that a pattern can switch on and off for a part of itself, and the character types
whose meaning depends on them.
-/

namespace ScopeCheck.Regex

/-- The options in force at a place of a pattern. -/
structure Flags where
  ignoreCase : Bool := false
  extended : Bool := false
  /-- The dot matches the line feed too. -/
  dotAll : Bool := false
  asciiWord : Bool := false
  asciiDigit : Bool := false
  asciiSpace : Bool := false
  asciiPosix : Bool := false
  /-- Plain groups do not capture. -/
  noCapture : Bool := false
  deriving Inhabited, DecidableEq, Repr

namespace Flags

/-- The word characters. -/
def wordSet (f : Flags) : CharSet := CharSet.asciiIf f.asciiWord .word

/-- The digits. -/
def digitSet (f : Flags) : CharSet := CharSet.asciiIf f.asciiDigit .digit

/-- The white space. -/
def spaceSet (f : Flags) : CharSet := CharSet.asciiIf f.asciiSpace .space

/-- The character type of an escape letter, with its negation in upper case. -/
def typeSet? (f : Flags) : Char → Option CharSet
  | 'w' => some f.wordSet
  | 'W' => some (.compl f.wordSet)
  | 'd' => some f.digitSet
  | 'D' => some (.compl f.digitSet)
  | 's' => some f.spaceSet
  | 'S' => some (.compl f.spaceSet)
  | 'h' => some CharSet.hex
  | 'H' => some (.compl CharSet.hex)
  | _ => none

/-- The names of the sets between `[:` and `:]`. -/
def posixNames : List String :=
  ["alnum", "alpha", "blank", "cntrl", "digit", "graph", "lower", "print", "punct", "space",
    "upper", "xdigit", "ascii", "word"]

/-- The set of a name between `[:` and `:]`. -/
def posixSet (f : Flags) (name : String) : CharSet :=
  match name with
  | "digit" => CharSet.asciiIf (f.asciiPosix || f.asciiDigit) .digit
  | "space" => CharSet.asciiIf (f.asciiPosix || f.asciiSpace) .space
  | "word" => CharSet.asciiIf (f.asciiPosix || f.asciiWord) .word
  | "xdigit" => CharSet.hex
  | "ascii" => CharSet.ascii
  | _ =>
    match Text.Property.find? name.toList with
    | some p => CharSet.asciiIf f.asciiPosix (.property p)
    | none => CharSet.empty

end Flags

end ScopeCheck.Regex
