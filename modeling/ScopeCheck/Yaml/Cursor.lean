/-!
# Places in a document

A `Cursor` is a place in a text together with the line and the column it is in.  `readable?`
prepares a text: it refuses characters that a document may not hold, and leaves one way only to
break a line, next to the two separators of Unicode.
-/

namespace ScopeCheck.Yaml

/-- Whether a document may hold a character. -/
def isPrintable (c : Char) : Bool :=
  let n := c.toNat
  c = '\t' || c = '\n' || c = '\r' || (0x20 ≤ n && n ≤ 0x7e) || n = 0x85 ||
    (0xa0 ≤ n && n ≤ 0xd7ff) || (0xe000 ≤ n && n ≤ 0xfffd) || 0x10000 ≤ n

/-- Writes the breaks that come from other systems as line feeds. -/
def plainBreaks : List Char → List Char
  | [] => []
  | '\r' :: '\n' :: rest => '\n' :: plainBreaks rest
  | '\r' :: rest | '\u0085' :: rest => '\n' :: plainBreaks rest
  | c :: rest => c :: plainBreaks rest

/-- The characters of a text that may be a document. -/
def readable? (text : String) : Option (List Char) :=
  if text.toList.all isPrintable then some (plainBreaks text.toList) else none

/-- Whether a character ends a line. -/
def isBreak (c : Char) : Bool := c = '\n' || c = '\u2028' || c = '\u2029'

/-- Whether a character is a space or a tab. -/
def isBlank (c : Char) : Bool := c = ' ' || c = '\t'

/-- Whether the rest of a text starts with a blank or a break, or is empty. -/
def atGap : List Char → Bool
  | [] => true
  | c :: _ => isBlank c || isBreak c

/-- Whether a character may stand in the name of an anchor or of a directive. -/
def isWord (c : Char) : Bool := c.isAlphanum || c = '_' || c = '-'

/-- A line and a column, from zero. -/
structure Position where
  line : Nat
  column : Nat
  deriving DecidableEq, Inhabited, Repr

/-- The position behind a character. -/
def Position.after (p : Position) (c : Char) : Position :=
  if isBreak c then ⟨p.line + 1, 0⟩ else ⟨p.line, p.column + 1⟩

/-- A place in a text. -/
structure Cursor where
  rest : List Char
  position : Position
  deriving Inhabited, Repr

namespace Cursor

/-- The column of a place. -/
def column (c : Cursor) : Nat := c.position.column

/-- The place behind the next character. -/
def skip (c : Cursor) : Cursor :=
  match c.rest with
  | [] => c
  | x :: rest => ⟨rest, c.position.after x⟩

/-- The place behind the next characters. -/
def skipMany (c : Cursor) (n : Nat) : Cursor := n.fold (fun _ _ c => c.skip) c

/-- The next characters with a property, and the place behind them. -/
def takeWhile (p : Char → Bool) (c : Cursor) : List Char × Cursor :=
  let taken := c.rest.takeWhile p
  (taken, c.skipMany taken.length)

/-- The place behind the next characters with a property. -/
def skipWhile (p : Char → Bool) (c : Cursor) : Cursor := (c.takeWhile p).2

/-- Whether the next character is this one. -/
def starts (c : Cursor) (x : Char) : Bool := c.rest.head? = some x

end Cursor

/-- Whether a mark between documents stands at the start of a line. -/
def atDocumentMark (p : Position) : List Char → Bool
  | '-' :: '-' :: '-' :: rest | '.' :: '.' :: '.' :: rest => p.column = 0 && atGap rest
  | _ => false

end ScopeCheck.Yaml
