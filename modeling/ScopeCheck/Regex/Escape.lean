import ScopeCheck.Text.Numeral
import ScopeCheck.Text.Letter
import ScopeCheck.Regex.Node

/-!
# Numbers, code points and names in patterns

What may follow a backslash and is spelled the same inside and outside of brackets: numeric
character codes, control characters and property names; and the names of groups.
-/

namespace ScopeCheck.Regex

open ScopeCheck.Text

/-- Numbers above this are too big wherever they stand. -/
def numberLimit : Nat := 0x7FFFFFFF

/-- Repetition counts above this are too big. -/
def repeatLimit : Nat := 100000

/-- The greatest code point. -/
def lastCode : Nat := 0x10FFFF

/-- A leading decimal number, 0 when there is none; `none` when it is too big. -/
def decimalNumber (src : List Char) : Option Nat × List Char :=
  let (digits, rest) := Numeral.spanWhile Numeral.isDecimal src
  let n := Numeral.value 10 digits
  (if n ≤ numberLimit then some n else none, rest)

/-- A code point that a pattern spells out. -/
def checkedCode (code : Nat) : Except Error Nat :=
  if code ≤ lastCode then .ok code else .error .codePointTooBig

/-- A hexadecimal number of 32 bits that stands at the head of `src`. -/
def hexCode (limit : Nat) (src : List Char) : Except Error (Nat × List Char × Bool) :=
  let (digits, rest) := Numeral.spanUpTo Numeral.isHex limit src
  let n := Numeral.value 16 digits
  if n > 0xFFFFFFFF then .error .codePointTooBig else .ok (n, rest, digits ≠ [])

/-- An octal number of 32 bits that stands at the head of `src`. -/
def octalCode (limit : Nat) (src : List Char) : Except Error (Nat × List Char × Bool) :=
  let (digits, rest) := Numeral.spanUpTo Numeral.isOctal limit src
  let n := Numeral.value 8 digits
  if n > 0xFFFFFFFF then .error .codePointTooBig else .ok (n, rest, digits ≠ [])

/-- A byte that is spelled with at most this many octal digits. -/
def octalByte (limit : Nat) (src : List Char) : Except Error (Nat × List Char) := do
  let (value, rest, _) ← octalCode limit src
  if value > 0xFF then throw .numberTooBig
  return (value, rest)

/-- The code points and ranges of code points inside the braces of `\x` and `\o`. -/
inductive CodeItem
  | single (code : Nat)
  | span (first last : Nat)
  deriving Repr

/-- Reads the rest of a sequence of code points up to the closing brace; `none` when it is not
spelled as one.  A range is possible in brackets only. -/
def codeSequence (hex inClass : Bool) : Nat → List Char →
    Except Error (Option (List CodeItem × List Char))
  | 0, _ => .ok none
  | fuel + 1, src =>
    let src := src.dropWhile fun c => c = ' ' || c = '\n'
    match src with
    | [] => .ok none
    | '}' :: rest => .ok (some ([], rest))
    | _ => do
      let limit := if hex then 8 else 11
      let isDigit := if hex then Numeral.isHex else Numeral.isOctal
      let (code, rest, found) ← if hex then hexCode limit src else octalCode limit src
      if !found then return none
      if (rest.head?.map isDigit).getD false then throw .codePointTooLong
      match inClass, rest with
      | true, '-' :: afterDash =>
        let (last, rest, found) ← if hex then hexCode limit afterDash else octalCode limit afterDash
        if !found then return none
        if (rest.head?.map isDigit).getD false then throw .codePointTooLong
        return (← codeSequence hex inClass fuel rest).map fun (items, rest) =>
          (.span code last :: items, rest)
      | _, _ =>
        return (← codeSequence hex inClass fuel rest).map fun (items, rest) =>
          (.single code :: items, rest)

/-- Reads the inside of the braces of `\x` and `\o`, after the opening brace; `none` when it
cannot be read, and the escape then means its letter. -/
def bracedCodes (hex inClass : Bool) (src : List Char) :
    Except Error (Option (List CodeItem × List Char)) := do
  let limit := if hex then 8 else 11
  let isDigit := if hex then Numeral.isHex else Numeral.isOctal
  let (_, rest, found) ← if hex then hexCode limit src else octalCode limit src
  if (rest.head?.map isDigit).getD false then throw .codePointTooLong
  if !found then return none
  codeSequence hex inClass (src.length + 1) src

/-- What a backslash and a character stand for when no other rule applies: a control character,
a meta character, one of the abbreviations, or the character itself. -/
def escapedValue : Nat → List Char → Except Error (Nat × List Char)
  | 0, _ | _, [] => .error .endAtEscape
  | fuel + 1, c :: rest =>
    let control (src : List Char) : Except Error (Nat × List Char) :=
      match src with
      | [] => .error .endAtControl
      | '?' :: rest => .ok (0x7F, rest)
      | '\\' :: rest =>
        (escapedValue fuel rest).map fun (code, rest) => (code &&& 0x9F, rest)
      | c :: rest => .ok (c.toNat &&& 0x9F, rest)
    match c with
    | 'M' =>
      match rest with
      | [] => .error .endAtMeta
      | '-' :: rest =>
        match rest with
        | [] => .error .endAtMeta
        | '\\' :: rest =>
          (escapedValue fuel rest).map fun (code, rest) => ((code &&& 0xFF) ||| 0x80, rest)
        | c :: rest => .ok ((c.toNat &&& 0xFF) ||| 0x80, rest)
      | _ => .error .metaSyntax
    | 'C' =>
      match rest with
      | [] => .error .endAtControl
      | '-' :: rest => control rest
      | _ => .error .controlSyntax
    | 'c' => control rest
    | 'n' => .ok (0x0A, rest)
    | 't' => .ok (0x09, rest)
    | 'r' => .ok (0x0D, rest)
    | 'f' => .ok (0x0C, rest)
    | 'a' => .ok (0x07, rest)
    | 'b' => .ok (0x08, rest)
    | 'e' => .ok (0x1B, rest)
    | 'v' => .ok (0x0B, rest)
    | c => .ok (c.toNat, rest)

/-- Reads a property name up to its closing brace. -/
def propertySet (src : List Char) : Except Error (CharSet × List Char) :=
  let stops (c : Char) : Bool := c = '}' || c = '(' || c = ')' || c = '{' || c = '|'
  let (name, rest) := Numeral.spanWhile (fun c => !stops c) src
  match rest with
  | [] => .error .unclosedGroup
  | '}' :: rest =>
    match Property.find? name with
    | some p => .ok (.property p, rest)
    | none => .error (.propertyName name)
  | _ => .error (.propertyName name)

/-- A name or number that refers to a group. -/
inductive GroupRef
  | absolute (index : Nat)
  /-- Counted from the current position, forwards or backwards. -/
  | relative (forwards : Bool) (distance : Nat)
  | named (name : List Char)
  deriving Repr

/-- Reads the name of a group that is being defined, after the opening mark. -/
def definedName (closing : Char) (src : List Char) : Except Error (List Char × List Char) :=
  match src with
  | [] => .error .emptyGroupName
  | c :: _ =>
    let (name, rest) := Numeral.spanWhile (fun c => c ≠ closing && c ≠ ')') src
    if c = closing then .error .emptyGroupName
    else if Numeral.isDecimal c || c = '-' || c = '+' then .error (.groupName name)
    else if !isWord c.toNat then
      let (more, _) := Numeral.spanWhile (fun c => c ≠ closing && c ≠ ')') (src.drop 1)
      .error (.groupNameCharacter (c :: more))
    else
      match rest with
      | c :: rest =>
        if c ≠ closing then .error (.groupName src)
        else if name.all (fun c => isWord c.toNat) then .ok (name, rest)
        else .error (.groupNameCharacter name)
      | [] => .error (.groupName src)

/-- Reads a reference to a group, after the opening mark.  With `levels` the name may end in a
nesting level, which is passed over. -/
def groupRef (levels : Bool) (closing : Char) (src : List Char) :
    Except Error (GroupRef × List Char) :=
  match src with
  | [] => .error .emptyGroupName
  | first :: tail =>
    if first = closing then .error .emptyGroupName
    else
      let stops (c : Char) : Bool := c = closing || c = ')' || (levels && (c = '+' || c = '-'))
      let numeric := Numeral.isDecimal first || first = '-' || first = '+'
      let (more, rest) := Numeral.spanWhile (fun c => !stops c) tail
      let name := first :: more
      let digits := if Numeral.isDecimal first then name else more
      let wellFormed :=
        if numeric then digits ≠ [] && digits.all Numeral.isDecimal
        else name.all fun c => isWord c.toNat
      let malformed : Error :=
        if numeric then
          if !levels && !digits.all (fun c => isWord c.toNat) then .groupNameCharacter name
          else .groupName name
        else .groupNameCharacter name
      let afterLevel : Option (List Char) :=
        match rest with
        | c :: rest =>
          if c = closing then some rest
          else if levels && (c = '+' || c = '-') then
            let (level, rest) := Numeral.spanWhile Numeral.isDecimal rest
            match level, rest with
            | _ :: _, c :: rest => if c = closing then some rest else none
            | _, _ => none
          else none
        | [] => none
      match afterLevel with
      | none => .error (if levels && !wellFormed then malformed else .groupName src)
      | some rest =>
        if !wellFormed then .error malformed
        else if numeric then
          match decimalNumber digits with
          | (none, _) => .error .numberTooBig
          | (some n, _) =>
            if Numeral.isDecimal first then .ok (.absolute n, rest)
            else if n = 0 then .error (.groupName name)
            else .ok (.relative (first = '+') n, rest)
        else .ok (.named name, rest)

/-- The number that a relative reference means after `count` groups have been opened; `none`
below the first group. -/
def absoluteIndex? (count : Nat) (forwards : Bool) (distance : Nat) : Option Nat :=
  if forwards then some (count + distance)
  else if distance ≤ count then some (count + 1 - distance) else none

end ScopeCheck.Regex
