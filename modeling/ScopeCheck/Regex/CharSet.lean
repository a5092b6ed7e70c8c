import ScopeCheck.Text.Blank
import ScopeCheck.Text.Letter
import ScopeCheck.Text.Fold
import ScopeCheck.Text.Property

/-!
# Character sets

The sets that a bracket expression or a character type stands for, as expressions over ranges
and properties.  `CharSet.contains` decides membership, `CharSet.folded` is the closure of a set
under case folding.
-/

namespace ScopeCheck.Regex

open ScopeCheck.Text

/-- A set of code points. -/
inductive CharSet
  | range (first last : Nat)
  | digit
  | space
  | word
  | property (p : Property.Named)
  | union (a b : CharSet)
  | inter (a b : CharSet)
  | compl (a : CharSet)
  | folded (a : CharSet)
  deriving Inhabited, DecidableEq, Repr

namespace CharSet

/-- Whether a set has a code point. -/
def contains : CharSet → Nat → Bool
  | range first last, code => first ≤ code && code ≤ last
  | digit, code => isDigit code
  | space, code => isBlank (Char.ofNat code)
  | word, code => isWord code
  | property p, code => p.contains code
  | union a b, code => a.contains code || b.contains code
  | inter a b, code => a.contains code && b.contains code
  | compl a, code => !a.contains code
  | folded a, code => a.contains code || (variants code).any a.contains

/-- The set without members. -/
def empty : CharSet := range 1 0

/-- All code points. -/
def full : CharSet := range 0 0x10FFFF

/-- The ASCII range. -/
def ascii : CharSet := range 0 0x7F

/-- The union of a list of sets. -/
def unions : List CharSet → CharSet
  | [] => empty
  | [a] => a
  | a :: rest => union a (unions rest)

/-- A set or its complement. -/
def negatedIf (negated : Bool) (a : CharSet) : CharSet := if negated then compl a else a

/-- Hexadecimal digits. -/
def hex : CharSet := unions [range 0x30 0x39, range 0x41 0x46, range 0x61 0x66]

/-- Restricts a set to the ASCII range. -/
def asciiIf (restricted : Bool) (a : CharSet) : CharSet :=
  if restricted then inter a ascii else a

/-- The characters that stand for several characters of other texts without regard to case. -/
def longVariants (a : CharSet) : List (List Nat) :=
  (foldMany.toList.filter fun entry => a.contains entry.1).map (·.2)

end CharSet

end ScopeCheck.Regex
