import ScopeCheck.Yaml.Scalar
import ScopeCheck.Yaml.Tag

/-!
# Tokens

A document is read as a list of `Token`s.  Lines that are indented farther than the ones around
them open a block, and its end is a token as well.

* A key need not be marked: whether a word is a key is seen at the `:` behind it.  `Key` is a word
  that may still turn out to be one; its token is then put in front of it.
* Inside brackets the indentation counts for nothing; each bracket has a `Key` of its own.
* `Scanner.fetch` reads one token, and `scanTokens` all of them.
-/

namespace ScopeCheck.Yaml

/-- A token that holds nothing. -/
inductive Mark
  | documentStart
  | documentEnd
  | blockSequence
  | blockMapping
  | blockEnd
  | openSequence
  | closeSequence
  | openMapping
  | closeMapping
  /-- The dash before an item. -/
  | item
  /-- The comma between brackets. -/
  | separator
  | key
  | value
  deriving DecidableEq, Inhabited, Repr

/-- A part of a document; anchors have names of the type `ν`. -/
inductive Token (ν : Type)
  | mark (mark : Mark)
  | directive (directive : Directive)
  | alias (name : ν)
  | anchor (name : ν)
  | tag (tag : RawTag)
  | scalar (text : String) (plain : Bool)
  deriving DecidableEq, Inhabited, Repr

/-- A token that may turn out to be a key. -/
structure Key where
  /-- Whether it stands where only a key can stand. -/
  required : Bool
  /-- How many tokens there are before it. -/
  number : Nat
  position : Position

/-- The state of reading tokens. -/
structure Scanner where
  cursor : Cursor
  /-- The tokens that have been read, the latest first. -/
  tokens : List (Token String)
  /-- The columns of the blocks that are open, the innermost first. -/
  blocks : List Nat
  /-- The possible key of each open bracket, the innermost first, and of the document. -/
  keys : List (Option Key)
  /-- Whether a key may start here. -/
  allowed : Bool

namespace Scanner

/-- The state before a text. -/
def start (text : List Char) : Scanner := ⟨⟨text, ⟨0, 0⟩⟩, [], [], [none], true⟩

/-- Whether the text stands inside brackets. -/
def inFlow (s : Scanner) : Bool := 1 < s.keys.length

/-- The column where the text stands. -/
def column (s : Scanner) : Nat := s.cursor.column

/-- The least column of a line that is indented farther than the innermost block. -/
def inner (s : Scanner) : Nat :=
  match s.blocks with
  | [] => 0
  | column :: _ => column + 1

/-- Adds a token. -/
def add (s : Scanner) (t : Token String) : Scanner := { s with tokens := t :: s.tokens }

/-- Puts a token in front of the token with a number. -/
def insert (s : Scanner) (number : Nat) (t : Token String) : Scanner :=
  let later := s.tokens.length - number
  { s with tokens := s.tokens.take later ++ t :: s.tokens.drop later }

/-- Adds a token of `n` characters. -/
def take (s : Scanner) (n : Nat) (t : Token String) : Scanner :=
  { s with cursor := s.cursor.skipMany n }.add t

/-- Closes the blocks that stand to the right of a column. -/
def closeBlocks (s : Scanner) (column : Nat) : Scanner :=
  if s.inFlow then s
  else
    let closed := s.blocks.takeWhile (column < ·)
    { s with
      tokens := closed.map (fun _ => .mark .blockEnd) ++ s.tokens
      blocks := s.blocks.drop closed.length }

/-- Closes all blocks. -/
def closeAllBlocks (s : Scanner) : Scanner :=
  if s.inFlow then s
  else { s with tokens := s.blocks.map (fun _ => .mark .blockEnd) ++ s.tokens, blocks := [] }

/-- Opens a block in a column before the token with a number, unless one is open there. -/
def openBlock (s : Scanner) (column number : Nat) (m : Mark) : Scanner :=
  if s.inFlow || column < s.inner then s
  else { s.insert number (.mark m) with blocks := column :: s.blocks }

/-- Opens a block here, where a key or an item stands. -/
def openBlockHere (s : Scanner) (m : Mark) : Option Scanner :=
  if s.inFlow then some s
  else if s.allowed then some (s.openBlock s.column s.tokens.length m)
  else none

/-- Gives up the innermost possible key; refused where only a key can stand. -/
def dropKey (s : Scanner) : Option Scanner :=
  match s.keys with
  | some key :: outer => if key.required then none else some { s with keys := none :: outer }
  | _ => some s

/-- Takes what follows for a possible key. -/
def noteKey (s : Scanner) : Option Scanner := do
  if s.allowed then
    let required := !s.inFlow && s.blocks.head? = some s.column
    let s ← s.dropKey
    return { s with keys := some ⟨required, s.tokens.length, s.cursor.position⟩ :: s.keys.tail }
  else return s

/-- Sets whether a key may start here. -/
def allow (s : Scanner) (allowed : Bool) : Scanner := { s with allowed := allowed }

/-- Whether a possible key is too far away from here: in another line, or more than 1024
characters before. -/
def isStale (s : Scanner) (key : Key) : Bool :=
  key.position.line < s.cursor.position.line || key.position.column + 1024 < s.column

/-- Gives up the possible keys that are too far away; refused where only a key can stand. -/
def dropStaleKeys (s : Scanner) : Option Scanner := do
  let keys ← s.keys.mapM fun key =>
    match key with
    | some key => if s.isStale key then (if key.required then none else some none) else some key
    | none => some none
  return { s with keys := keys }

/-- Passes over blanks, breaks and comments; a key may start after a break.  Tabs are blanks only
where no key may start. -/
def passGap (flow allowed comment : Bool) (p : Position) : List Char → Bool × Cursor
  | [] => (allowed, ⟨[], p⟩)
  | c :: rest =>
    if isBreak c then passGap flow (allowed || !flow) false (p.after c) rest
    else if comment || c = ' ' || (c = '\t' && (flow || !allowed)) ||
        (c = '\uFEFF' && p.column = 0) then
      passGap flow allowed comment (p.after c) rest
    else if c = '#' then passGap flow allowed true (p.after c) rest
    else (allowed, ⟨c :: rest, p⟩)

/-- Moves to the next token: closes the blocks that have ended before it. -/
def approach (s : Scanner) : Option Scanner := do
  let (allowed, cursor) := passGap s.inFlow s.allowed false s.cursor.position s.cursor.rest
  let s ← { s with allowed := allowed, cursor := cursor }.dropStaleKeys
  return s.closeBlocks s.column

/-- Reads a mark between documents, or a directive. -/
def documentMark (s : Scanner) (t : Token String) (cursor : Cursor) : Option Scanner := do
  let s ← s.closeAllBlocks.dropKey
  return ({ s with cursor := cursor }.add t).allow false

/-- Reads an opening bracket. -/
def openBracket (s : Scanner) (m : Mark) : Option Scanner := do
  let s ← s.noteKey
  return ({ s with keys := none :: s.keys }.take 1 (.mark m)).allow true

/-- Reads a closing bracket. -/
def closeBracket (s : Scanner) (m : Mark) : Option Scanner := do
  let s ← s.dropKey
  return ({ s with keys := if s.inFlow then s.keys.tail else s.keys }.take 1 (.mark m)).allow false

/-- Reads the dash before an item, or the mark before a key. -/
def blockMark (s : Scanner) (block m : Mark) (allowed : Bool) : Option Scanner := do
  let s ← (← s.openBlockHere block).dropKey
  return (s.take 1 (.mark m)).allow allowed

/-- Reads the colon before a value; what stands before it turns out to be a key. -/
def colon (s : Scanner) : Option Scanner :=
  match s.keys with
  | some key :: outer =>
    let s := s.insert key.number (.mark .key)
    let s := s.openBlock key.position.column key.number .blockMapping
    some (({ s with keys := none :: outer }.take 1 (.mark .value)).allow false)
  | _ => do
    let s ← s.openBlockHere .blockMapping
    return (s.take 1 (.mark .value)).allow (!s.inFlow)

/-- Reads the name of an anchor. -/
def named (s : Scanner) (make : String → Token String) : Option Scanner := do
  let s ← s.noteKey
  let (name, cursor) := s.cursor.skip.takeWhile isWord
  if name ≠ [] && (atGap cursor.rest || cursor.rest.head?.any ("?:,]\x7d%@`".contains ·)) then
    return ({ s with cursor := cursor }.add (make (String.ofList name))).allow false
  else none

/-- Reads a tag. -/
def tagged (s : Scanner) : Option Scanner := do
  let s ← s.noteKey
  let (tag, cursor) ← scanTag s.inFlow s.cursor
  return ({ s with cursor := cursor }.add (.tag tag)).allow false

/-- Reads a block of lines. -/
def block (s : Scanner) (literal : Bool) : Option Scanner := do
  let s ← s.dropKey
  let (text, cursor) ← scanBlock literal s.blocks.head? s.cursor.skip
  return ({ s with cursor := cursor }.add (.scalar text false)).allow true

/-- Reads a text in quotes. -/
def quoted (s : Scanner) (read : Position → List Char → Option (String × Cursor)) :
    Option Scanner := do
  let s ← s.noteKey
  let (text, cursor) ← read s.cursor.skip.position s.cursor.skip.rest
  return ({ s with cursor := cursor }.add (.scalar text false)).allow false

/-- Reads a plain text. -/
def plain (s : Scanner) : Option Scanner := do
  let s ← s.noteKey
  let p ← scanPlain s.inFlow s.inner .none [] s.cursor.position s.cursor.rest
  return ({ s with cursor := p.behind }.add (.scalar p.text true)).allow p.broken

/-- Whether a plain text may start so. -/
def startsPlain (flow : Bool) : List Char → Bool
  | [] => false
  | '-' :: rest => !rest.head?.any isBlank
  | c :: rest =>
    if c = '?' || c = ':' then !flow && !atGap rest
    else !(isBlank c || isBreak c || ",[]\x7b\x7d#&*!|>'\"%@`".contains c)

/-- Reads the next token. -/
def fetch (s : Scanner) (c : Char) (rest : List Char) : Option Scanner :=
  if s.column = 0 && c = '%' then do
    let (directive, cursor) ← scanDirective s.cursor
    s.documentMark (.directive directive) cursor
  else if atDocumentMark s.cursor.position (c :: rest) then
    s.documentMark (.mark (if c = '-' then .documentStart else .documentEnd)) (s.cursor.skipMany 3)
  else if c = '[' then s.openBracket .openSequence
  else if c = '{' then s.openBracket .openMapping
  else if c = ']' then s.closeBracket .closeSequence
  else if c = '}' then s.closeBracket .closeMapping
  else if c = ',' then s.dropKey.map fun s => (s.take 1 (.mark .separator)).allow true
  else if c = '-' && atGap rest then s.blockMark .blockSequence .item true
  else if c = '?' && (s.inFlow || atGap rest) then s.blockMark .blockMapping .key (!s.inFlow)
  else if c = ':' && (s.inFlow || atGap rest) then s.colon
  else if c = '*' then s.named .alias
  else if c = '&' then s.named .anchor
  else if c = '!' then s.tagged
  else if c = '|' && !s.inFlow then s.block true
  else if c = '>' && !s.inFlow then s.block false
  else if c = '\'' then s.quoted (scanSingle .none [])
  else if c = '"' then s.quoted (scanDouble .outside .none [])
  else if startsPlain s.inFlow (c :: rest) then s.plain
  else none

/-- Reads at most `fuel` tokens, and requires that the text ends then. -/
def finish (s : Scanner) : Nat → Option (List (Token String))
  | 0 => none
  | fuel + 1 => do
    let s ← s.approach
    match s.cursor.rest with
    | [] =>
      let s ← s.closeAllBlocks.dropKey
      return s.tokens.reverse
    | c :: rest => (← s.fetch c rest).finish fuel

end Scanner

/-- Reads the tokens of a text.  Each has at least one character. -/
def scanTokens (text : List Char) : Option (List (Token String)) :=
  (Scanner.start text).finish (text.length + 1)

end ScopeCheck.Yaml
