import ScopeCheck.Json.Tree
import ScopeCheck.Text.Utf8

/-!
# Reading documents

`readRoot` reads a whole text into a tree and says where the value ends.  Numbers, strings
and literals have readers of their own; each returns the rest of the text.
-/

namespace ScopeCheck.JsonReader

open ScopeCheck.Number
open ScopeCheck.Text

/-- What is left to read, and the number of bytes before it. -/
structure Input where
  index : Nat
  rest : List Char
  deriving Inhabited

namespace Input

/-- The byte behind the next character, or the end. -/
def peekIndex (i : Input) : Nat := if i.rest = [] then i.index else i.index + 1

/-- The input behind its next character. -/
def drop (i : Input) : Input :=
  match i.rest with
  | [] => i
  | c :: rest => ⟨i.index + c.utf8Size, rest⟩

/-- The input behind leading characters that satisfy `p`. -/
def dropWhile (p : Char → Bool) (i : Input) : Input :=
  ⟨i.index + byteLength (i.rest.takeWhile p), i.rest.dropWhile p⟩

/-- The input behind blanks. -/
def skipBlanks (i : Input) : Input :=
  i.dropWhile fun c => c = ' ' || c = '\n' || c = '\t' || c = '\r'

/-- A fault that shows the next character. -/
def peekFault (i : Input) (cause : FaultCause) : Fault := ⟨cause, i.peekIndex⟩

end Input

section Strings

/-- Reads four hexadecimal digits. -/
def readHex (i : Input) : Except Fault (Nat × Input) :=
  match i.rest with
  | a :: b :: c :: d :: rest =>
    if [a, b, c, d].all Numeral.isHex then .ok (Numeral.value 16 [a, b, c, d], ⟨i.index + 4, rest⟩)
    else shortOrBad
  | _ => shortOrBad
where
  /-- Four bytes are there but are no digits, or the text ends before. -/
  shortOrBad : Except Fault (Nat × Input) :=
    if byteLength i.rest < 4 then .error ⟨.endInString, i.index + byteLength i.rest⟩
    else .error ⟨.badEscape, i.index + 4⟩

/-- The character of a simple escape. -/
def simpleEscape? : Char → Option Char
  | '"' => some '"'
  | '\\' => some '\\'
  | '/' => some '/'
  | 'b' => some (Char.ofNat 8)
  | 'f' => some (Char.ofNat 12)
  | 'n' => some '\n'
  | 'r' => some '\r'
  | 't' => some '\t'
  | _ => none

/-- Reads the second half of a surrogate pair, behind the first one. -/
def readSecondHalf (high : Nat) (i : Input) : Except Fault (Char × Input) :=
  match i.rest with
  | [] => .error ⟨.endInString, i.index⟩
  | '\\' :: [] => .error ⟨.endInString, i.index + 1⟩
  | '\\' :: 'u' :: rest => do
    let (low, after) ← readHex ⟨i.index + 2, rest⟩
    if 0xDC00 ≤ low ∧ low ≤ 0xDFFF then
      .ok (Char.ofNat (0x10000 + (high - 0xD800) * 0x400 + (low - 0xDC00)), after)
    else .error ⟨.loneSurrogate, after.index⟩
  | '\\' :: _ => .error ⟨.unfinishedPair, i.index + 2⟩
  | _ => .error ⟨.unfinishedPair, i.index + 1⟩

/-- Reads an escape, behind its backslash. -/
def readEscape (i : Input) : Except Fault (Char × Input) :=
  match i.rest with
  | [] => .error ⟨.endInString, i.index⟩
  | 'u' :: rest => do
    let (code, after) ← readHex ⟨i.index + 1, rest⟩
    if 0xDC00 ≤ code ∧ code ≤ 0xDFFF then .error ⟨.loneSurrogate, after.index⟩
    else if 0xD800 ≤ code ∧ code ≤ 0xDBFF then readSecondHalf code after
    else .ok (Char.ofNat code, after)
  | c :: rest =>
    match simpleEscape? c with
    | some image => .ok (image, ⟨i.index + 1, rest⟩)
    | none => .error ⟨.badEscape, i.index + 1⟩

/-- Passes over an escape, behind its backslash. -/
def skipEscape (i : Input) : Except Fault (Unit × Input) :=
  match i.rest with
  | [] => .error ⟨.endInString, i.index⟩
  | 'u' :: rest => (readHex ⟨i.index + 1, rest⟩).map fun r => ((), r.2)
  | c :: rest =>
    if (simpleEscape? c).isSome then .ok ((), ⟨i.index + 1, rest⟩)
    else .error ⟨.badEscape, i.index + 1⟩

/-- Reads a string behind its opening quote; `done` holds what has been read, last first. -/
def readString : Nat → List Char → Input → Except Fault (String × Input)
  | 0, _, i => .error ⟨.endInString, i.index⟩
  | fuel + 1, done, i =>
    match i.rest with
    | [] => .error ⟨.endInString, i.index⟩
    | '"' :: rest => .ok (String.ofList done.reverse, ⟨i.index + 1, rest⟩)
    | '\\' :: rest => do
      let (c, after) ← readEscape ⟨i.index + 1, rest⟩
      readString fuel (c :: done) after
    | c :: rest =>
      if c.toNat < 32 then .error ⟨.controlCharacter, i.index + 1⟩
      else readString fuel (c :: done) ⟨i.index + c.utf8Size, rest⟩

/-- Passes over a string behind its opening quote. -/
def skipString : Nat → Input → Except Fault (Unit × Input)
  | 0, i => .error ⟨.endInString, i.index⟩
  | fuel + 1, i =>
    match i.rest with
    | [] => .error ⟨.endInString, i.index⟩
    | '"' :: rest => .ok ((), ⟨i.index + 1, rest⟩)
    | '\\' :: rest => do
      let (_, after) ← skipEscape ⟨i.index + 1, rest⟩
      skipString fuel after
    | c :: rest =>
      if c.toNat < 32 then .error ⟨.controlCharacter, i.index⟩
      else skipString fuel ⟨i.index + c.utf8Size, rest⟩

/-- A string as it is read strictly, and the way on if it can be passed over. -/
def stringHere (i : Input) : Except Fault String × Except Break Input :=
  let fuel := i.rest.length + 1
  let strict := (readString fuel [] i).map (·.1)
  match skipString fuel i with
  | .ok (_, after) => (strict, .ok after)
  | .error loose =>
    match strict with
    | .error f => (strict, .error ⟨f, loose⟩)
    | .ok _ => (strict, .error ⟨loose, loose⟩)

end Strings

section Numbers

/-- Appends digits to a number as long as it stays within 64 bits; the rest is returned. -/
def gatherDigits : Nat → List Char → Nat × List Char
  | n, [] => (n, [])
  | n, c :: rest =>
    let next := n * 10 + (c.toNat - 48)
    if next ≤ JsonNumber.greatest then gatherDigits next rest else (n, c :: rest)

/-- Multiplies a number by a power of ten, in steps that are numbers themselves; `none` when the
result is too great. -/
def shiftDecimal : Nat → Double → Int → Option Double
  | 0, d, _ => some d
  | fuel + 1, d, exponent =>
    if exponent.natAbs ≤ 308 then
      let power := Double.ofDecimal false 1 exponent.natAbs
      if exponent < 0 then some (d.over power)
      else
        match d.times power with
        | .infinite _ => none
        | r => some r
    else if d.isZero then some d
    else if 0 ≤ exponent then none
    else shiftDecimal fuel (d.over (Double.ofDecimal false 1 308)) (exponent + 308)

/-- The floating-point number of a significand and an exponent of ten. -/
def floatOf (negative : Bool) (significand : Nat) (exponent : Int) : Option JsonNumber :=
  (shiftDecimal 5 (Double.ofRatio false significand 1) exponent).map fun d =>
    .float (d.signed negative)

/-- The greatest exponent that is counted. -/
def exponentLimit : Nat := 2147483647

/-- The parts of a number behind its sign, with the input behind each. -/
structure NumberParts where
  whole : List Char
  fraction : List Char
  exponent : Option (Bool × List Char)
  /-- Behind the sign of the exponent. -/
  exponentIndex : Nat
  after : Input

/-- The value of a number whose form is right. -/
def NumberParts.value (negative : Bool) (p : NumberParts) (fractional : Bool) :
    Except Fault JsonNumber :=
  let (significand, left) := gatherDigits 0 p.whole
  if left = [] && !fractional && p.exponent = none then
    if negative then
      if significand = 0 then .ok (.float (.finite true 0 leastExponent))
      else if significand ≤ 9223372036854775808 then .ok (.whole (-(significand : Int)))
      else .ok ((floatOf true significand 0).getD (.whole 0))
    else .ok (.whole significand)
  else
    let (significand, unread) := gatherDigits significand p.fraction
    let shift : Int := (left.length : Int) - ((p.fraction.length - unread.length : Nat) : Int)
    let tooGreat (index : Nat) : Except Fault JsonNumber := .error ⟨.numberOutOfRange, index⟩
    let finish (exponent : Int) : Except Fault JsonNumber :=
      match floatOf negative significand exponent with
      | some n => .ok n
      | none => tooGreat p.after.index
    match p.exponent with
    | none => finish shift
    | some (minus, digits) =>
      let power := Numeral.value 10 digits
      if power ≤ exponentLimit then finish (if minus then shift - power else shift + power)
      else if significand = 0 ∨ minus then .ok (.float ((Double.ofRatio false 0 1).signed negative))
      else tooGreat (p.exponentIndex + overflowLength digits 0 0)
where
  /-- How many digits are read until the exponent is too great. -/
  overflowLength : List Char → Nat → Nat → Nat
    | [], count, _ => count
    | c :: rest, count, n =>
      let next := n * 10 + (c.toNat - 48)
      if next > exponentLimit then count + 1 else overflowLength rest (count + 1) next

/-- Reads a number behind its sign: its value, and the way on. -/
def numberHere (negative : Bool) (i : Input) : Except Fault JsonNumber × Except Break Input :=
  let stop (b : Break) : Except Fault JsonNumber × Except Break Input := (.error b.strict, .error b)
  let whole := i.rest.takeWhile Numeral.isDecimal
  let i₁ := i.dropWhile Numeral.isDecimal
  match whole, i.rest with
  | [], [] => stop ⟨⟨.endInValue, i.index⟩, ⟨.badNumber, i.index⟩⟩
  | [], _ :: _ => stop (.both .badNumber (i.index + 1))
  | '0' :: _ :: _, _ => stop (.both .badNumber (i.index + 2))
  | _, _ =>
    let fractional := i₁.rest.head? = some '.'
    let i₂ := if fractional then i₁.drop else i₁
    let fraction := if fractional then i₂.rest.takeWhile Numeral.isDecimal else []
    let i₃ := if fractional then i₂.dropWhile Numeral.isDecimal else i₂
    if fractional && fraction = [] then
      stop ⟨i₂.peekFault (if i₂.rest = [] then .endInValue else .badNumber),
        i₂.peekFault .badNumber⟩
    else
      match i₃.rest with
      | 'e' :: _ | 'E' :: _ =>
        let i₄ := i₃.drop
        let (minus, i₅) := match i₄.rest with
          | '+' :: _ => (false, i₄.drop)
          | '-' :: _ => (true, i₄.drop)
          | _ => (false, i₄)
        let digits := i₅.rest.takeWhile Numeral.isDecimal
        if digits = [] then
          if i₅.rest = [] then stop ⟨⟨.endInValue, i₅.index⟩, ⟨.badNumber, i₅.index⟩⟩
          else stop (.both .badNumber (i₅.index + 1))
        else
          let after := i₅.dropWhile Numeral.isDecimal
          let parts : NumberParts := ⟨whole, fraction, some (minus, digits), i₅.index, after⟩
          (parts.value negative fractional, .ok after)
      | _ =>
        let parts : NumberParts := ⟨whole, fraction, none, i₃.index, i₃⟩
        (parts.value negative fractional, .ok i₃)

end Numbers

/-- Reads the rest of a literal behind its first character. -/
def literalHere : List Char → Input → Except Break Input
  | [], i => .ok i
  | wanted :: more, i =>
    match i.rest with
    | [] => .error (.both .endInValue i.index)
    | c :: rest =>
      if c = wanted then literalHere more ⟨i.index + 1, rest⟩
      else .error (.both .badLiteral (i.index + 1))

/-- A literal as a tree. -/
def literalTree (tail : String) (i : Input) (tree : Nat → JsonTree) : JsonTree × Option Input :=
  match literalHere tail.toList i.drop with
  | .ok after => (tree after.index, some after)
  | .error b => (.broken b, none)

/-- How far one has looked for the end of an array. -/
def afterItem (i : Input) : Nat :=
  match i.rest with
  | ']' :: _ => i.index + 1
  | ',' :: _ => i.drop.skipBlanks.index
  | _ => i.index

/-- How far one has looked for the end of an object. -/
def afterMember (i : Input) : Nat :=
  match i.rest with
  | '}' :: _ => i.index + 1
  | _ => i.index

mutual

/-- Reads a value; without an input behind it the text cannot be read any further. -/
def readTree : Nat → Input → JsonTree × Option Input
  | 0, i => (.broken (.both .endInValue i.index), none)
  | fuel + 1, i₀ =>
    let i := i₀.skipBlanks
    match i.rest with
    | [] => (.broken (.both .endInValue i.index), none)
    | 'n' :: _ => literalTree "ull" i .null
    | 't' :: _ => literalTree "rue" i (.bool true)
    | 'f' :: _ => literalTree "alse" i (.bool false)
    | '"' :: _ =>
      match stringHere i.drop with
      | (value, .ok after) => (.string value after.index, some after)
      | (_, .error b) => (.broken b, none)
    | '[' :: _ =>
      let (items, after) := readItems fuel true i.drop
      (.array i.index items, after)
    | '{' :: _ =>
      let (members, after) := readMembers fuel true i.drop
      (.object i.index members, after)
    | c :: _ =>
      let negative := c = '-'
      if negative || Numeral.isDecimal c then
        match numberHere negative (if negative then i.drop else i) with
        | (value, .ok after) => (.number value after.index, some after)
        | (_, .error b) => (.broken b, none)
      else (.broken (.both .noValue (i.index + 1)), none)

/-- Reads the rest of an array. -/
def readItems : Nat → Bool → Input → JsonItems × Option Input
  | 0, _, i => (.broken (.both .endInArray i.index), none)
  | fuel + 1, first, i₀ =>
    let i := i₀.skipBlanks
    match i.rest with
    | [] => (.broken (.both .endInArray i.index), none)
    | ']' :: _ => (.done, some i.drop)
    | c :: _ =>
      if first then readItem fuel i
      else if c = ',' then
        let i := i.drop.skipBlanks
        match i.rest with
        | [] => (.broken (.both .endInValue i.index), none)
        | ']' :: _ =>
          (.broken ⟨⟨.trailingComma, i.index + 1⟩, ⟨.noValue, i.index + 1⟩⟩, none)
        | _ => readItem fuel i
      else (.broken (.both .noArrayComma (i.index + 1)), none)

/-- Reads an array from one of its values on. -/
def readItem : Nat → Input → JsonItems × Option Input
  | 0, i => (.broken (.both .endInArray i.index), none)
  | fuel + 1, i =>
    match readTree fuel i with
    | (item, none) => (.more item 0 .done, none)
    | (item, some after) =>
      let (rest, final) := readItems fuel false after
      (.more item (afterItem after.skipBlanks) rest, final)

/-- Reads the rest of an object. -/
def readMembers : Nat → Bool → Input → JsonMembers × Option Input
  | 0, _, i => (.broken (.both .endInObject i.index), none)
  | fuel + 1, first, i₀ =>
    let i := i₀.skipBlanks
    match i.rest with
    | [] => (.broken (.both .endInObject i.index), none)
    | '}' :: _ => (.done, some i.drop)
    | c :: _ =>
      if first then
        if c = '"' then readMember fuel i.drop
        else (.broken (.both .noKey (i.index + 1)), none)
      else if c = ',' then
        let i := i.drop.skipBlanks
        match i.rest with
        | [] => (.broken ⟨⟨.endInValue, i.index⟩, ⟨.endInObject, i.index⟩⟩, none)
        | '"' :: _ => readMember fuel i.drop
        | '}' :: _ => (.broken ⟨⟨.trailingComma, i.index + 1⟩, ⟨.noKey, i.index + 1⟩⟩, none)
        | _ => (.broken (.both .noKey (i.index + 1)), none)
      else (.broken (.both .noObjectComma (i.index + 1)), none)

/-- Reads an object from one of its keys on, behind the opening quote. -/
def readMember : Nat → Input → JsonMembers × Option Input
  | 0, i => (.broken (.both .endInObject i.index), none)
  | fuel + 1, i =>
    match stringHere i with
    | (_, .error b) => (.broken b, none)
    | (key, .ok after₀) =>
      let after := after₀.skipBlanks
      let afterKey := afterMember after
      match after.rest with
      | ':' :: _ =>
        match readTree fuel after.drop with
        | (value, none) => (.more key afterKey value 0 .done, none)
        | (value, some next) =>
          let (rest, final) := readMembers fuel false next
          (.more key afterKey value (afterMember next.skipBlanks) rest, final)
      | [] => (.more key afterKey (.broken (.both .endInObject after.index)) 0 .done, none)
      | _ => (.more key afterKey (.broken (.both .noColon (after.index + 1))) 0 .done, none)

end

/-- A text as a tree, with the fault of what follows the value. -/
def readRoot (text : String) : JsonTree × Option Fault :=
  let cs := text.toList
  let (tree, after) := readTree (4 * cs.length + 8) ⟨0, cs⟩
  let trailing : Option Fault := after.bind fun i =>
    let i := i.skipBlanks
    if i.rest = [] then none else some ⟨.trailingText, i.index + 1⟩
  (tree, trailing)

end ScopeCheck.JsonReader
