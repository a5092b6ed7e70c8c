/-!
# Binary numbers of 64 bits

Floating-point numbers as exact fractions, and the rounding that leads to them.

* `Double.ofRatio` rounds a fraction to the nearest number, a tie to the even one.
* `Double.times` and `Double.over` round the exact product and quotient.
* `Double.roundHalfAway` rounds to a whole number.
-/

namespace ScopeCheck.Number

/-- A floating-point number.  A finite one is `mantissa * 2 ^ exponent`; its mantissa has 53 bits,
or fewer at the least exponent. -/
inductive Double
  | finite (negative : Bool) (mantissa : Nat) (exponent : Int)
  | infinite (negative : Bool)
  | nan
  deriving DecidableEq, Inhabited, Repr

/-- The least exponent. -/
def leastExponent : Int := -1074

/-- The greatest exponent of a finite number. -/
def greatestExponent : Int := 971

/-- The least mantissa of 53 bits. -/
def halfMantissa : Nat := 4503599627370496

/-- A fraction times a power of two, as a fraction. -/
def scaled (num den : Nat) (exponent : Int) : Nat × Nat :=
  if 0 ≤ exponent then (num * Nat.pow 2 exponent.toNat, den)
  else (num, den * Nat.pow 2 (-exponent).toNat)

/-- The quotient of two numbers, rounded to the nearest whole number, a tie to the even one. -/
def divideToEven (num den : Nat) : Nat :=
  let q := num / den
  let r := num % den
  if 2 * r > den ∨ (2 * r = den ∧ q % 2 = 1) then q + 1 else q

/-- The exponent at which a positive fraction has a mantissa of 53 bits, or the least exponent. -/
def exponentFor (num den : Nat) : Int :=
  let guess : Int := (Nat.log2 num : Int) - (Nat.log2 den : Int) - 52
  let (n, d) := scaled num den (-guess)
  let exact := if n / d < halfMantissa then guess - 1 else guess
  max exact leastExponent

/-- The number nearest to a fraction, a tie going to the even mantissa. -/
def Double.ofRatio (negative : Bool) (num den : Nat) : Double :=
  if num = 0 then .finite negative 0 leastExponent
  else
    let exponent := exponentFor num den
    let (n, d) := scaled num den (-exponent)
    let m := divideToEven n d
    let (m, exponent) :=
      if m = 2 * halfMantissa then (halfMantissa, exponent + 1) else (m, exponent)
    if exponent > greatestExponent then .infinite negative else .finite negative m exponent

/-- The number nearest to a decimal `digits * 10 ^ exponent`. -/
def Double.ofDecimal (negative : Bool) (digits : Nat) (exponent : Int) : Double :=
  if digits = 0 then .ofRatio negative 0 1
  else if exponent > 400 then .infinite negative
  else if 0 ≤ exponent then .ofRatio negative (digits * Nat.pow 10 exponent.toNat) 1
  else if (Nat.log2 digits : Int) + 1 < -(4 * (exponent + 350)) then .ofRatio negative 0 1
  else .ofRatio negative digits (Nat.pow 10 (-exponent).toNat)

/-- The absolute value of a finite number as a fraction. -/
def fraction (mantissa : Nat) (exponent : Int) : Nat × Nat := scaled mantissa 1 exponent

/-- The product, rounded. -/
def Double.times : Double → Double → Double
  | .finite s m e, .finite t n f =>
    let (a, b) := fraction m e
    let (c, d) := fraction n f
    .ofRatio (s != t) (a * c) (b * d)
  | .finite s m _, .infinite t | .infinite s, .finite t m _ =>
    if m = 0 then .nan else .infinite (s != t)
  | .infinite s, .infinite t => .infinite (s != t)
  | _, _ => .nan

/-- The quotient, rounded. -/
def Double.over : Double → Double → Double
  | .finite s m e, .finite t n f =>
    if n = 0 then (if m = 0 then .nan else .infinite (s != t))
    else
      let (a, b) := fraction m e
      let (c, d) := fraction n f
      .ofRatio (s != t) (a * d) (b * c)
  | .finite s _ _, .infinite t => .ofRatio (s != t) 0 1
  | .infinite s, .finite t _ _ => .infinite (s != t)
  | _, _ => .nan

/-- Whether the number is zero, of either sign. -/
def Double.isZero : Double → Bool
  | .finite _ m _ => m = 0
  | _ => false

/-- The number with the other sign if `negative`. -/
def Double.signed (negative : Bool) : Double → Double
  | .finite s m e => .finite (s != negative) m e
  | .infinite s => .infinite (s != negative)
  | .nan => .nan

/-- The whole number nearest to a finite number, a tie going away from zero. -/
def roundHalfAway (negative : Bool) (mantissa : Nat) (exponent : Int) : Int :=
  let (a, b) := fraction mantissa exponent
  let n := (2 * a + b) / (2 * b)
  if negative then -(n : Int) else n

end ScopeCheck.Number
