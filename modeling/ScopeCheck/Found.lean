/-!
# Matches

What a search for a pattern finds: a range of the text and the ranges of the groups.
Positions count characters.
-/

namespace ScopeCheck

/-- A range of positions. -/
structure Span where
  start : Nat
  stop : Nat
  deriving Inhabited, DecidableEq, Repr

/-- The characters of a range. -/
def Span.of (text : Array Char) (s : Span) : List Char := (text.extract s.start s.stop).toList

/-- A match: the whole range, and the ranges of the groups from number 1 on. -/
structure Found where
  whole : Span
  groups : List (Option Span)
  deriving Inhabited, DecidableEq, Repr

/-- The range of a group; number 0 is the whole match. -/
def Found.span? (f : Found) : Nat → Option Span
  | 0 => some f.whole
  | index + 1 => (f.groups[index]?).join

end ScopeCheck
