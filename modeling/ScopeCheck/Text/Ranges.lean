import ScopeCheck.Text.Numeral

/-!
# Sets of code points

A set is kept as an array of half-open ranges in ascending order.  The tables of the character
properties write a set as a text of hexadecimal numbers, alternately the gap before a range
and its length.
-/

namespace ScopeCheck.Text

/-- Code points as half-open ranges in ascending order. -/
structure Ranges where
  bounds : Array (Nat × Nat)
  deriving Inhabited, DecidableEq, Repr

namespace Ranges

/-- Turns gaps and lengths into ranges, starting at `origin`. -/
def ofGaps : Nat → List Nat → List (Nat × Nat)
  | origin, gap :: length :: rest =>
    (origin + gap, origin + gap + length) :: ofGaps (origin + gap + length) rest
  | _, _ => []

/-- Reads a set from its table text. -/
def decode (table : String) : Ranges := ⟨(ofGaps 0 (Numeral.hexNumbers table)).toArray⟩

/-- Looks for `code` among the ranges with index in `[low, high)`. -/
def search (bounds : Array (Nat × Nat)) (code : Nat) : Nat → Nat → Nat → Bool
  | 0, _, _ => false
  | fuel + 1, low, high =>
    if low < high then
      let middle := (low + high) / 2
      match bounds[middle]? with
      | none => false
      | some (first, stop) =>
        if code < first then search bounds code fuel low middle
        else if code < stop then true
        else search bounds code fuel (middle + 1) high
    else false

/-- Whether the set has the code point. -/
def contains (r : Ranges) (code : Nat) : Bool :=
  search r.bounds code (r.bounds.size + 1) 0 r.bounds.size

end Ranges

end ScopeCheck.Text
