import ScopeCheck.Number.Double
import ScopeCheck.Text.Numeral

/-!
# Numbers and dates

Numbers may have underscores between their digits.  A date is kept as the text that names it in
the usual form.
-/

namespace ScopeCheck.Toml

open ScopeCheck.Number
open ScopeCheck.Text

/-- Reads digits with single underscores between them. -/
def scanDigits (isDigit : Char → Bool) (cs : List Char) : Option (List Char × List Char) :=
  let (run, rest) := Numeral.spanWhile (fun c => isDigit c || c = '_') cs
  let doubled := (run.zip run.tail).any fun p => p.1 = '_' && p.2 = '_'
  if run = [] || run.head? = some '_' || run.getLast? = some '_' || doubled then none
  else some (run.filter (· ≠ '_'), rest)

/-- Reads the digits of a whole number, of which the first is zero only if it is the only one. -/
def scanWholeDigits (cs : List Char) : Option (List Char × List Char) :=
  match cs with
  | '0' :: rest => some (['0'], rest)
  | _ => scanDigits Numeral.isDecimal cs

/-- Reads a sign. -/
def scanSign : List Char → Bool × List Char
  | '-' :: rest => (true, rest)
  | '+' :: rest => (false, rest)
  | cs => (false, cs)

/-- A number. -/
inductive Amount
  | whole (value : Int)
  | float (value : Double)

/-- Whether a whole number has 64 bits. -/
def isShort (n : Int) : Bool := -9223372036854775808 ≤ n && n < 9223372036854775808

/-- A whole number of 64 bits. -/
def wholeAmount (n : Int) : Option Amount := if isShort n then some (.whole n) else none

/-- A floating-point number; one that is too large is refused, but not one that is too small. -/
def floatAmount (d : Double) : Option Amount :=
  if d = .infinite false then none else some (.float d)

/-- Reads a whole number in another base. -/
def scanBased (base : Nat) (isDigit : Char → Bool) (cs : List Char) :
    Option (Amount × List Char) := do
  let (digits, rest) ← scanDigits isDigit cs
  return (← wholeAmount (Numeral.value base digits), rest)

/-- Reads the exponent of a number, if there is one. -/
def scanExponent : List Char → Option (Option Int × List Char)
  | 'e' :: rest | 'E' :: rest => do
    let (negative, rest) := scanSign rest
    let (digits, rest) ← scanDigits Numeral.isDecimal rest
    let n : Int := Numeral.value 10 digits
    return (some (if negative then -n else n), rest)
  | cs => some (none, cs)

/-- Reads a number of the decimal system from behind its sign. -/
def scanDecimal (negative : Bool) (cs : List Char) : Option (Amount × List Char) := do
  let (before, rest) ← scanWholeDigits cs
  let (behind, rest) ←
    match rest with
    | '.' :: rest => do
      let (behind, rest) ← scanDigits Numeral.isDecimal rest
      pure (some behind, rest)
    | _ => pure (none, rest)
  let (exponent, rest) ← scanExponent rest
  let digits := Numeral.value 10 (before ++ behind.getD [])
  if behind.isNone && exponent.isNone then
    return (← wholeAmount (if negative then -(digits : Int) else digits), rest)
  else
    let power := exponent.getD 0 - (behind.getD []).length
    return (← floatAmount (Double.ofDecimal negative digits power), rest)

/-- Reads a number. -/
def scanNumber (cs : List Char) : Option (Amount × List Char) :=
  match cs with
  | '0' :: 'x' :: rest => scanBased 16 Numeral.isHex rest
  | '0' :: 'o' :: rest => scanBased 8 Numeral.isOctal rest
  | '0' :: 'b' :: rest => scanBased 2 (fun c => c = '0' || c = '1') rest
  | _ =>
    let (negative, rest) := scanSign cs
    match rest with
    | 'i' :: 'n' :: 'f' :: rest => some (.float (.infinite negative), rest)
    | 'n' :: 'a' :: 'n' :: rest => some (.float .nan, rest)
    | _ => scanDecimal negative rest

/-- Reads a number of two digits that is at least `low` and at most `high`. -/
def scanPair (low high : Nat) : List Char → Option (List Char × List Char)
  | a :: b :: rest => do
    let n ← Numeral.ofDigits? 10 [a, b]
    if low ≤ n && n ≤ high then some ([a, b], rest) else none
  | _ => none

/-- The number of days in a month. -/
def daysIn (year month : Nat) : Nat :=
  if month = 2 then
    if year % 4 = 0 && (year % 100 ≠ 0 || year % 400 = 0) then 29 else 28
  else if [4, 6, 9, 11].contains month then 30
  else 31

/-- Reads a day: a year, a month and a day of the month. -/
def scanDay : List Char → Option (List Char × List Char)
  | a :: b :: c :: d :: '-' :: rest => do
    let year ← Numeral.ofDigits? 10 [a, b, c, d]
    let (month, rest) ← scanPair 1 12 rest
    match rest with
    | '-' :: rest =>
      let (day, rest) ← scanPair 1 (daysIn year (Numeral.value 10 month)) rest
      return ([a, b, c, d, '-'] ++ month ++ '-' :: day, rest)
    | _ => none
  | _ => none

/-- Reads a fraction of a second; it is written with nine digits at most and without zeros at its
end. -/
def scanFraction (cs : List Char) : List Char × List Char :=
  match cs with
  | '.' :: rest =>
    let (digits, rest') := Numeral.spanWhile Numeral.isDecimal rest
    let kept := ((digits.take 9).reverse.dropWhile (· = '0')).reverse
    if digits = [] then ([], cs) else (if kept = [] then [] else '.' :: kept, rest')
  | _ => ([], cs)

/-- Reads a time of the day. -/
def scanTime (cs : List Char) : Option (List Char × List Char) := do
  let (hour, rest) ← scanPair 0 23 cs
  match rest with
  | ':' :: rest =>
    let (minute, rest) ← scanPair 0 59 rest
    match rest with
    | ':' :: rest =>
      let (second, rest) ← scanPair 0 60 rest
      let (fraction, rest) := scanFraction rest
      return (hour ++ ':' :: minute ++ ':' :: second ++ fraction, rest)
    | _ => none
  | _ => none

/-- Reads how far a time is from the one at the zero meridian. -/
def scanOffset (cs : List Char) : Option (List Char × List Char) :=
  match cs with
  | 'Z' :: rest | 'z' :: rest => some (['Z'], rest)
  | sign :: rest =>
    if sign = '+' || sign = '-' then do
      let (hour, rest) ← scanPair 0 23 rest
      match rest with
      | ':' :: rest =>
        let (minute, rest) ← scanPair 0 59 rest
        let same := Numeral.value 10 (hour ++ minute) = 0
        return ((if same then '+' else sign) :: hour ++ ':' :: minute, rest)
      | _ => none
    else some ([], cs)
  | [] => some ([], [])

/-- Whether a date or a time of the day starts here. -/
def startsMoment (cs : List Char) : Bool :=
  let digits := cs.takeWhile Numeral.isDecimal
  match digits.length, cs.drop digits.length with
  | 4, '-' :: _ | 2, ':' :: _ => true
  | _, _ => false

/-- Reads a date, a time of the day, or both. -/
def scanMoment (cs : List Char) : Option (List Char × List Char) :=
  if (cs.drop 2).head? = some ':' then scanTime cs
  else do
    let (day, rest) ← scanDay cs
    let timed (rest : List Char) : Option (List Char × List Char) := do
      let (time, rest) ← scanTime rest
      let (offset, rest) ← scanOffset rest
      return (day ++ 'T' :: time ++ offset, rest)
    match rest with
    | 'T' :: inside | 't' :: inside =>
      if startsMoment inside then timed inside else return (day, rest)
    | ' ' :: inside => if startsMoment inside then timed inside else return (day, rest)
    | _ => return (day, rest)

end ScopeCheck.Toml
