import ScopeCheck.Number.Double
import ScopeCheck.Text.Numeral

/-!
# Shortest decimals

The decimal text of a floating-point number has the fewest digits that still name the number,
and of those the nearest.  `shortest` finds digits and exponent; `DecimalStyle.render` lays them
out.
-/

namespace ScopeCheck.Number

open ScopeCheck.Text

/-- A decimal `digits * 10 ^ exponent`. -/
structure Decimal where
  digits : Nat
  exponent : Int
  deriving DecidableEq, Repr

/-- The fraction `num / den`, counted in units of `10 ^ unit`. -/
def inUnits (num den : Nat) (unit : Int) : Nat × Nat :=
  if 0 ≤ unit then (num, den * Nat.pow 10 unit.toNat) else (num * Nat.pow 10 (-unit).toNat, den)

/-- The numbers that round to a mantissa: the fractions of the bounds in quarters of its last
place, and whether the bounds belong to them. -/
def roundingBounds (mantissa : Nat) (exponent : Int) : Nat × Nat × Bool :=
  let below := if mantissa = halfMantissa ∧ exponent > leastExponent then 1 else 2
  (4 * mantissa - below, 4 * mantissa + 2, mantissa % 2 = 0)

/-- Whether `count` units of `10 ^ unit` round to the number. -/
def namesNumber (mantissa : Nat) (exponent : Int) (unit : Int) (count : Nat) : Bool :=
  let (low, high, closed) := roundingBounds mantissa exponent
  let (lowNum, lowDen) := scaled low 4 exponent
  let (highNum, highDen) := scaled high 4 exponent
  let (a, b) := inUnits lowNum lowDen unit
  let (c, d) := inUnits highNum highDen unit
  if closed then a ≤ count * b && count * d ≤ c else a < count * b && count * d < c

/-- The nearest decimal with this unit that names the number. -/
def nearestIn (mantissa : Nat) (exponent : Int) (unit : Int) : Option Nat :=
  let (num, den) := fraction mantissa exponent
  let (a, b) := inUnits num den unit
  let below := a / b
  let nearer := divideToEven a b
  let farther := if nearer = below then below + 1 else below
  if namesNumber mantissa exponent unit nearer then some nearer
  else if namesNumber mantissa exponent unit farther then some farther
  else none

/-- Drops zeros at the end of the digits. -/
def dropZeros : Nat → Decimal → Decimal
  | 0, d => d
  | fuel + 1, d =>
    if d.digits ≠ 0 ∧ d.digits % 10 = 0 then dropZeros fuel ⟨d.digits / 10, d.exponent + 1⟩ else d

/-- Tries units from a large one down. -/
def shortestFrom (mantissa : Nat) (exponent : Int) : Nat → Int → Decimal
  | 0, unit =>
    let (num, den) := fraction mantissa exponent
    let (a, b) := inUnits num den unit
    ⟨divideToEven a b, unit⟩
  | fuel + 1, unit =>
    match nearestIn mantissa exponent unit with
    | some 0 | none => shortestFrom mantissa exponent fuel (unit - 1)
    | some count => dropZeros 20 ⟨count, unit⟩

/-- The shortest decimal that names a finite number, without its sign. -/
def shortest (mantissa : Nat) (exponent : Int) : Decimal :=
  if mantissa = 0 then ⟨0, 0⟩
  else
    let size : Int := (Nat.log2 mantissa : Int) + exponent
    shortestFrom mantissa exponent 24 (size * 30103 / 100000 + 1)

/-- How a decimal is laid out. -/
structure DecimalStyle where
  /-- The least power of ten of the first digit that is written without an exponent. -/
  lowest : Int
  /-- The greatest power of ten of the first digit that is written without an exponent. -/
  highest : Int
  /-- What follows a whole number. -/
  wholeTail : String
  /-- Stands between the digits and an exponent that is not negative. -/
  exponentMark : String

/-- The text of a decimal. -/
def DecimalStyle.render (style : DecimalStyle) (d : Decimal) : String :=
  let digits := Numeral.digits 10 d.digits
  let point : Int := digits.length + d.exponent
  let first := point - 1
  if d.digits = 0 then "0" ++ style.wholeTail
  else if style.lowest ≤ first ∧ first ≤ style.highest then
    if 0 ≤ d.exponent then
      String.ofList (digits ++ List.replicate d.exponent.toNat '0') ++ style.wholeTail
    else if 0 < point then
      String.ofList (digits.take point.toNat ++ '.' :: digits.drop point.toNat)
    else String.ofList ('0' :: '.' :: (List.replicate (-point).toNat '0' ++ digits))
  else
    let head := match digits with
      | [] => []
      | [c] => [c]
      | c :: rest => c :: '.' :: rest
    let mark := if 0 ≤ first then style.exponentMark else "e"
    String.ofList head ++ mark ++ Numeral.signed first

end ScopeCheck.Number
