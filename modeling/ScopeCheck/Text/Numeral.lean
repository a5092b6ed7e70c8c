/-!
# Numerals

Reading and writing natural numbers in a positional base.  `Numeral.ofDigits?` reads a whole
text, `Numeral.decimal` writes the digits that `ofDigits? 10` reads back.
-/

namespace ScopeCheck.Text.Numeral

/-- The value of a digit below sixteen, in either letter case. -/
def digit? (c : Char) : Option Nat :=
  if '0' ≤ c ∧ c ≤ '9' then some (c.toNat - 48)
  else if 'a' ≤ c ∧ c ≤ 'f' then some (c.toNat - 87)
  else if 'A' ≤ c ∧ c ≤ 'F' then some (c.toNat - 55)
  else none

/-- The value of a digit of the given base. -/
def digitOf? (base : Nat) (c : Char) : Option Nat :=
  (digit? c).filter (· < base)

/-- A digit of the decimal system, in the ASCII range. -/
def isDecimal (c : Char) : Bool := '0' ≤ c && c ≤ '9'

/-- A hexadecimal digit. -/
def isHex (c : Char) : Bool := (digit? c).isSome

/-- An octal digit. -/
def isOctal (c : Char) : Bool := '0' ≤ c && c ≤ '7'

/-- The number whose digits in `base` are `cs`; characters that are no digit count as zero. -/
def value (base : Nat) (cs : List Char) : Nat :=
  cs.foldl (fun n c => n * base + (digit? c).getD 0) 0

/-- Reads a non-empty text that consists of digits of `base` only. -/
def ofDigits? (base : Nat) (cs : List Char) : Option Nat :=
  if cs ≠ [] ∧ cs.all (fun c => (digitOf? base c).isSome) then some (value base cs) else none

/-- Splits off the longest leading run of characters that satisfy `p`. -/
def spanWhile (p : Char → Bool) (cs : List Char) : List Char × List Char :=
  (cs.takeWhile p, cs.dropWhile p)

/-- Splits off at most `limit` leading characters that satisfy `p`. -/
def spanUpTo (p : Char → Bool) : Nat → List Char → List Char × List Char
  | 0, cs => ([], cs)
  | _ + 1, [] => ([], [])
  | limit + 1, c :: cs =>
    if p c then
      let (taken, rest) := spanUpTo p limit cs
      (c :: taken, rest)
    else ([], c :: cs)

theorem spanUpTo_append (p : Char → Bool) (limit : Nat) (cs : List Char) :
    (spanUpTo p limit cs).1 ++ (spanUpTo p limit cs).2 = cs := by
  induction limit generalizing cs with
  | zero => simp [spanUpTo]
  | succ limit ih =>
    cases cs with
    | nil => simp [spanUpTo]
    | cons c cs => by_cases h : p c <;> simp [spanUpTo, h, ih]

/-- The digit of a value below sixteen, in lower case. -/
def digitChar (n : Nat) : Char :=
  if n < 10 then Char.ofNat (48 + n) else Char.ofNat (87 + n)

/-- The digits of `n` in `base`, most significant first, in front of `tail`. -/
def digitsOnto (base : Nat) : Nat → Nat → List Char → List Char
  | 0, _, tail => tail
  | fuel + 1, n, tail =>
    let rest := digitChar (n % base) :: tail
    if n / base = 0 then rest else digitsOnto base fuel (n / base) rest

/-- The digits of `n` in `base`; zero is written as one digit. -/
def digits (base n : Nat) : List Char := digitsOnto base (n + 1) n []

/-- The decimal text of a number. -/
def decimal (n : Nat) : String := String.ofList (digits 10 n)

/-- The decimal text of an integer, with a sign in front of a negative one. -/
def signed : Int → String
  | .ofNat n => decimal n
  | .negSucc n => "-" ++ decimal (n + 1)

/-- The hexadecimal numbers of a text in which any other character separates. -/
def hexNumbers (s : String) : List Nat :=
  let step : Option Nat × List Nat → Char → Option Nat × List Nat
    | (current, done), c =>
      match digit? c, current with
      | some d, some n => (some (n * 16 + d), done)
      | some d, none => (some d, done)
      | none, some n => (none, n :: done)
      | none, none => (none, done)
  match s.toList.foldl step (none, []) with
  | (some n, done) => (n :: done).reverse
  | (none, done) => done.reverse

end ScopeCheck.Text.Numeral
