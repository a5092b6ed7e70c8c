import ScopeCheck.Text.Numeral
import ScopeCheck.Text.Utf8
import ScopeCheck.Yaml.Cursor

/-!
# Tags and directives

A tag is a handle and a suffix, or is given in full between angle brackets.  A directive states
the version of the language or says what a handle stands for.  `%` and two digits stand for a
byte.
-/

namespace ScopeCheck.Yaml

/-- A tag as it is written; without a handle the suffix is the whole tag. -/
structure RawTag where
  handle : String
  suffix : String
  deriving DecidableEq, Inhabited, Repr

/-- What a directive says. -/
inductive Directive
  | version (major minor : Nat)
  | handle (name stands : String)
  deriving DecidableEq, Inhabited, Repr

/-- Whether a character may stand in a tag. -/
def isTagChar (full : Bool) (c : Char) : Bool :=
  isWord c || ";/?:@&=+$.%!~*'()".contains c || (full && ",[]".contains c)

/-- How many bytes the character has that starts with a byte. -/
def characterWidth? (b : Nat) : Option Nat :=
  if b < 0x80 then some 1
  else if 0xc0 ≤ b && b < 0xe0 then some 2
  else if 0xe0 ≤ b && b < 0xf0 then some 3
  else if 0xf0 ≤ b && b < 0xf8 then some 4
  else none

/-- The bytes of a tag; `left` bytes are missing for the character that is being spelled. -/
def tagBytes (left : Nat) : List Char → Option (List UInt8)
  | [] => if left = 0 then some [] else none
  | '%' :: c :: d :: rest => do
    let b ← Text.Numeral.ofDigits? 16 [c, d]
    let left ←
      if left = 0 then (characterWidth? b).map (· - 1)
      else if 0x80 ≤ b && b < 0xc0 then some (left - 1)
      else none
    return UInt8.ofNat b :: (← tagBytes left rest)
  | '%' :: _ => none
  | c :: rest => do
    if left = 0 then return UInt8.ofNat c.toNat :: (← tagBytes 0 rest) else none

/-- The text that the characters of a tag spell. -/
def tagText? (cs : List Char) : Option String :=
  (tagBytes 0 cs).map Text.decodeLossy

/-- Reads a handle: a word between exclamation marks, of which the second may be missing. -/
def scanHandle (c : Cursor) : Option (List Char × Cursor) :=
  if c.starts '!' then
    let (word, c) := c.skip.takeWhile isWord
    if c.starts '!' then some ('!' :: word ++ ['!'], c.skip) else some ('!' :: word, c)
  else none

/-- Reads a tag. -/
def scanTag (flow : Bool) (c : Cursor) : Option (RawTag × Cursor) := do
  let (tag, c) ←
    if c.skip.starts '<' then do
      let (cs, c) := (c.skipMany 2).takeWhile (isTagChar true)
      if cs ≠ [] && c.starts '>' then pure (RawTag.mk "" (← tagText? cs), c.skip) else none
    else do
      let (handle, c) ← scanHandle c
      let (cs, c) := c.takeWhile (isTagChar false)
      let suffix ← tagText? cs
      if 1 < handle.length && handle.getLast? = some '!' then
        if cs = [] then none else pure (RawTag.mk (String.ofList handle) suffix, c)
      else
        let suffix := String.ofList handle.tail ++ suffix
        if suffix = "" then pure (RawTag.mk "" "!", c) else pure (RawTag.mk "!" suffix, c)
  if atGap c.rest || (flow && c.starts ',') then some (tag, c) else none

/-- Reads a number of at most nine digits. -/
def scanVersionNumber (c : Cursor) : Option (Nat × Cursor) :=
  let (digits, c) := c.takeWhile Char.isDigit
  if digits = [] || 9 < digits.length then none
  else some (Text.Numeral.value 10 digits, c)

/-- Reads a directive and the rest of its line. -/
def scanDirective (c : Cursor) : Option (Directive × Cursor) := do
  let (name, c) := c.skip.takeWhile isWord
  let (directive, c) ←
    if !atGap c.rest then none
    else if name = "YAML".toList then do
      let (major, c) ← scanVersionNumber (c.skipWhile isBlank)
      if c.starts '.' then
        let (minor, c) ← scanVersionNumber c.skip
        pure (Directive.version major minor, c)
      else none
    else if name = "TAG".toList then do
      let (handle, c) ← scanHandle (c.skipWhile isBlank)
      if handle.getLast? = some '!' && c.rest.head?.any isBlank then
        let (cs, c) := (c.skipWhile isBlank).takeWhile (isTagChar true)
        if cs ≠ [] && atGap c.rest then
          pure (Directive.handle (String.ofList handle) (← tagText? cs), c)
        else none
      else none
    else none
  let c := c.skipWhile isBlank
  let c := if c.starts '#' then c.skipWhile (!isBreak ·) else c
  if c.rest.head?.all isBreak then some (directive, c.skip) else none

end ScopeCheck.Yaml
