import ScopeCheck.Text.Numeral
import ScopeCheck.Yaml.Cursor

/-!
# Scalars

The four ways to write a text in a document: plain, in single quotes, in double quotes, and as a
block of lines.

* A `Gap` is what stands between two words.  A single line break inside it is read as a space.
* `Block` is the state of reading a block; `Chomp` says what is kept of the breaks at its end.
-/

namespace ScopeCheck.Yaml

/-- What stands between two words of a scalar. -/
inductive Gap
  | none
  | blanks (reversed : List Char)
  /-- The first break, and the breaks after it. -/
  | breaks (first more : List Char)

namespace Gap

/-- Adds a blank; at the start of a line it counts for nothing. -/
def addBlank : Gap → Char → Gap
  | none, c => blanks [c]
  | blanks cs, c => blanks (c :: cs)
  | breaks first more, _ => breaks first more

/-- Adds a break; blanks at the end of a line count for nothing. -/
def addBreak : Gap → Char → Gap
  | none, c | blanks _, c => breaks [c] []
  | breaks first more, c => breaks first (more ++ [c])

/-- Whether the gap holds a break. -/
def isBroken : Gap → Bool
  | breaks .. => true
  | _ => false

/-- Whether there is a gap at all. -/
def isOpen : Gap → Bool
  | none => false
  | _ => true

/-- What the gap is read as, the last character first. -/
def reversed : Gap → List Char
  | none => []
  | blanks cs => cs
  | breaks first more =>
    if first ≠ ['\n'] then more.reverse ++ first
    else if more = [] then [' ']
    else more.reverse

end Gap

/-- A plain scalar that has been read. -/
structure Plain where
  text : String
  /-- Whether it ended in a line break. -/
  broken : Bool
  behind : Cursor

/-- Whether a plain scalar ends at a word. -/
def endsPlain (flow : Bool) : List Char → Bool
  | ':' :: rest => atGap rest
  | c :: _ => flow && ",[]\x7b\x7d".contains c
  | [] => true

/-- Whether a word is refused inside brackets. -/
def spoilsPlain (flow : Bool) : List Char → Bool
  | ':' :: c :: _ => flow && ",?[]\x7b\x7d".contains c
  | _ => false

/-- Reads a plain scalar; outside brackets no line of it may start left of `least`. -/
def scanPlain (flow : Bool) (least : Nat) (gap : Gap) (text : List Char) (p : Position) :
    List Char → Option Plain
  | [] => some ⟨String.ofList text.reverse, gap.isBroken, ⟨[], p⟩⟩
  | c :: rest =>
    if isBlank c then
      if gap.isBroken && p.column < least && c = '\t' then none
      else scanPlain flow least (gap.addBlank c) text (p.after c) rest
    else if isBreak c then scanPlain flow least (gap.addBreak c) text (p.after c) rest
    else if gap.isOpen &&
        ((!flow && p.column < least) || atDocumentMark p (c :: rest) || c = '#') then
      some ⟨String.ofList text.reverse, gap.isBroken, ⟨c :: rest, p⟩⟩
    else if spoilsPlain flow (c :: rest) then none
    else if endsPlain flow (c :: rest) then
      some ⟨String.ofList text.reverse, gap.isBroken, ⟨c :: rest, p⟩⟩
    else scanPlain flow least .none (c :: gap.reversed ++ text) (p.after c) rest

/-- Reads a scalar up to a single quote; a quote inside it is written twice. -/
def scanSingle (gap : Gap) (text : List Char) (p : Position) :
    List Char → Option (String × Cursor)
  | [] => none
  | '\'' :: '\'' :: rest =>
    scanSingle .none ('\'' :: gap.reversed ++ text) ⟨p.line, p.column + 2⟩ rest
  | '\'' :: rest =>
    some (String.ofList (gap.reversed ++ text).reverse, ⟨rest, p.after '\''⟩)
  | c :: rest =>
    if isBlank c then scanSingle (gap.addBlank c) text (p.after c) rest
    else if isBreak c then scanSingle (gap.addBreak c) text (p.after c) rest
    else if atDocumentMark p (c :: rest) then none
    else scanSingle .none (c :: gap.reversed ++ text) (p.after c) rest

/-- The character that a backslash and a letter stand for. -/
def escaped? : Char → Option Char
  | '0' => some '\x00'
  | 'a' => some '\x07'
  | 'b' => some '\x08'
  | 't' | '\t' => some '\t'
  | 'n' => some '\n'
  | 'v' => some '\x0b'
  | 'f' => some '\x0c'
  | 'r' => some '\r'
  | 'e' => some '\x1b'
  | 'N' => some '\u0085'
  | '_' => some '\u00a0'
  | 'L' => some '\u2028'
  | 'P' => some '\u2029'
  | ' ' => some ' '
  | '"' => some '"'
  | '/' => some '/'
  | '\\' => some '\\'
  | _ => none

/-- How many digits the number of a character has behind a backslash and a letter. -/
def escapeDigits? : Char → Option Nat
  | 'x' => some 2
  | 'u' => some 4
  | 'U' => some 8
  | _ => none

/-- The character with a number. -/
def character? (n : Nat) : Option Char :=
  if n.isValidChar then some (Char.ofNat n) else none

/-- Where the reader of a scalar in double quotes is: between characters, behind a backslash, or
before the remaining digits of a number. -/
inductive Escape
  | outside
  | letter
  | digits (left value : Nat)

/-- Reads a scalar up to a double quote. -/
def scanDouble (escape : Escape) (gap : Gap) (text : List Char) (p : Position) :
    List Char → Option (String × Cursor)
  | [] => none
  | c :: rest =>
    match escape with
    | .letter =>
      if isBreak c then scanDouble .outside (.breaks [] []) text (p.after c) rest
      else
        match escaped? c, escapeDigits? c with
        | some x, _ => scanDouble .outside .none (x :: text) (p.after c) rest
        | none, some n => scanDouble (.digits n 0) .none text (p.after c) rest
        | none, none => none
    | .digits left value =>
      match Text.Numeral.digitOf? 16 c with
      | none => none
      | some d =>
        if 1 < left then
          scanDouble (.digits (left - 1) (16 * value + d)) .none text (p.after c) rest
        else
          match character? (16 * value + d) with
          | none => none
          | some x => scanDouble .outside .none (x :: text) (p.after c) rest
    | .outside =>
      if c = '"' then some (String.ofList (gap.reversed ++ text).reverse, ⟨rest, p.after c⟩)
      else if c = '\\' then scanDouble .letter .none (gap.reversed ++ text) (p.after c) rest
      else if isBlank c then scanDouble .outside (gap.addBlank c) text (p.after c) rest
      else if isBreak c then scanDouble .outside (gap.addBreak c) text (p.after c) rest
      else if atDocumentMark p (c :: rest) then none
      else scanDouble .outside .none (c :: gap.reversed ++ text) (p.after c) rest

/-- What is kept of the line breaks at the end of a block. -/
inductive Chomp
  | strip
  | clip
  | keep

/-- The first line of a block: what is kept at its end, and by how much its lines are indented. -/
structure BlockHeader where
  chomp : Chomp
  indent : Option Nat

/-- Reads the sign of a first line. -/
def chomp? : Char → Option Chomp
  | '-' => some .strip
  | '+' => some .keep
  | _ => none

/-- Reads the marks of a first line: a sign and a digit in either order. -/
def blockHeader : List Char → Option (BlockHeader × List Char)
  | [] => some (⟨.clip, none⟩, [])
  | c :: rest =>
    if c.isDigit then
      if c = '0' then none
      else
        let indent := some (c.toNat - '0'.toNat)
        match rest.head?.bind chomp? with
        | some chomp => some (⟨chomp, indent⟩, rest.tail)
        | none => some (⟨.clip, indent⟩, rest)
    else
      match chomp? c with
      | none => some (⟨.clip, none⟩, c :: rest)
      | some chomp =>
        match rest with
        | d :: rest =>
          if d = '0' then none
          else if d.isDigit then some (⟨chomp, some (d.toNat - '0'.toNat)⟩, rest)
          else some (⟨chomp, none⟩, d :: rest)
        | [] => some (⟨chomp, none⟩, [])

/-- The state of reading the lines of a block. -/
structure Block where
  /-- Whether breaks are kept between lines. -/
  literal : Bool
  /-- The least column in which its lines may start. -/
  least : Nat
  /-- The column in which its lines start, once it is known. -/
  indent : Option Nat
  /-- What has been read, the last character first. -/
  text : List Char
  /-- The break after the last line, and the breaks of the empty lines after that. -/
  first : List Char
  more : List Char
  /-- Whether the last line starts with a blank. -/
  leadingBlank : Bool
  /-- The farthest column of an empty line. -/
  deepest : Nat
  /-- Whether the reader is inside a line. -/
  inLine : Bool

namespace Block

/-- Whether a column belongs to the indentation. -/
def isIndentation (b : Block) (column : Nat) : Bool := b.indent.all (column < ·)

/-- The column in which the lines start when the first of them starts in `column`. -/
def settled (b : Block) (column : Nat) : Nat :=
  b.indent.getD (max (max b.deepest column) b.least)

/-- Starts a line with a character. -/
def startLine (b : Block) (indent : Nat) (c : Char) : Block :=
  let folds := !b.literal && b.first = ['\n'] && !b.leadingBlank && !isBlank c
  let joint := if !folds then b.first else if b.more = [] then [' '] else []
  { b with
    indent := some indent, text := c :: b.more.reverse ++ joint ++ b.text,
    first := [], more := [], leadingBlank := isBlank c, inLine := true }

/-- The text of a block that has been read. -/
def result (b : Block) (chomp : Chomp) : String :=
  let tail := match chomp with
    | .strip => []
    | .clip => b.first
    | .keep => b.first ++ b.more
  String.ofList (b.text.reverse ++ tail)

/-- Reads the lines of a block. -/
def scan (b : Block) (p : Position) : List Char → Option (Block × Cursor)
  | [] => some (b, ⟨[], p⟩)
  | c :: rest =>
    if b.inLine then
      if isBreak c then { b with first := [c], inLine := false }.scan (p.after c) rest
      else { b with text := c :: b.text }.scan (p.after c) rest
    else if b.isIndentation p.column && c = ' ' then b.scan (p.after c) rest
    else if b.isIndentation p.column && c = '\t' then none
    else if isBreak c then
      { b with more := b.more ++ [c], deepest := max b.deepest p.column }.scan (p.after c) rest
    else if p.column = b.settled p.column then
      (b.startLine p.column c).scan (p.after c) rest
    else some (b, ⟨c :: rest, p⟩)

end Block

/-- Reads a block from behind its mark; `parent` is the column of what is around it. -/
def scanBlock (literal : Bool) (parent : Option Nat) (c : Cursor) : Option (String × Cursor) := do
  let (header, rest) ← blockHeader c.rest
  let c := (c.skipMany (c.rest.length - rest.length)).skipWhile isBlank
  let c := if c.starts '#' then c.skipWhile (!isBreak ·) else c
  if c.rest.head?.all isBreak then
    let c := c.skip
    let indent := header.indent.map fun n => parent.getD 0 + n
    let start : Block := ⟨literal, parent.getD 0 + 1, indent, [], [], [], false, 0, false⟩
    let (b, behind) ← start.scan c.position c.rest
    return (b.result header.chomp, behind)
  else none

end ScopeCheck.Yaml
