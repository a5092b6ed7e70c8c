import ScopeCheck.Text.Numeral

/-!
# Texts

A text stands between two quotes, or between two runs of three quotes if it has several lines.
Between double quotes a backslash starts an escape; between single quotes it is a character like
others.
-/

namespace ScopeCheck.Toml

/-- Whether a character is a space or a tab. -/
def isBlank (c : Char) : Bool := c = ' ' || c = '\t'

/-- Whether a character may stand in a text or in a comment: all but controls. -/
def isPlain (c : Char) : Bool := c = '\t' || (' ' ≤ c && c ≠ '\x7f')

/-- The character that a backslash and a letter stand for. -/
def escaped? : Char → Option Char
  | 'b' => some '\x08'
  | 't' => some '\t'
  | 'n' => some '\n'
  | 'f' => some '\x0c'
  | 'r' => some '\r'
  | '"' => some '"'
  | '\\' => some '\\'
  | _ => none

/-- How many digits the number of a character has behind a backslash and a letter. -/
def escapeDigits? : Char → Option Nat
  | 'u' => some 4
  | 'U' => some 8
  | _ => none

/-- How a text is written. -/
structure TextStyle where
  quote : Char
  /-- Whether it may have several lines, and ends with three quotes. -/
  multi : Bool
  deriving DecidableEq, Inhabited, Repr

namespace TextStyle

/-- Whether a backslash starts an escape. -/
def escapes (s : TextStyle) : Bool := s.quote = '"'

end TextStyle

/-- Where the reader of a text is. -/
inductive TextState
  | outside
  /-- Behind a backslash. -/
  | letter
  /-- Before the remaining digits of a number. -/
  | digits (left value : Nat)
  /-- In the blanks behind a backslash, which must reach the end of the line. -/
  | blanks (broken : Bool)

/-- The state before a character: blanks behind the end of a line are over when it is no blank. -/
def TextState.before (c : Char) : TextState → TextState
  | blanks true => if isBlank c || c = '\n' then blanks true else outside
  | state => state

/-- Reads a text from behind its opening quotes.  `quotes` is the number of quotes that have just
been read; up to two quotes may stand before the three that end a text. -/
def scanText (s : TextStyle) (state : TextState) (quotes : Nat) (text : List Char) :
    List Char → Option (String × List Char)
  | [] =>
    if 3 ≤ quotes then
      some (String.ofList (List.replicate (quotes - 3) s.quote ++ text).reverse, [])
    else none
  | c :: rest =>
    match state.before c with
    | .letter =>
      if s.multi && (isBlank c || c = '\n') then scanText s (.blanks (c = '\n')) 0 text rest
      else
        match escaped? c, escapeDigits? c with
        | some x, _ => scanText s .outside 0 (x :: text) rest
        | none, some n => scanText s (.digits n 0) 0 text rest
        | none, none => none
    | .digits left value =>
      match Text.Numeral.digitOf? 16 c with
      | none => none
      | some d =>
        if 1 < left then scanText s (.digits (left - 1) (16 * value + d)) 0 text rest
        else if (16 * value + d).isValidChar then
          scanText s .outside 0 (Char.ofNat (16 * value + d) :: text) rest
        else none
    | .blanks broken =>
      if isBlank c || c = '\n' then scanText s (.blanks (broken || c = '\n')) 0 text rest else none
    | .outside =>
      if c = s.quote then
        if !s.multi then some (String.ofList text.reverse, rest)
        else if quotes = 5 then none
        else scanText s .outside (quotes + 1) text rest
      else if 3 ≤ quotes then
        some (String.ofList (List.replicate (quotes - 3) s.quote ++ text).reverse, c :: rest)
      else
        let text := List.replicate quotes s.quote ++ text
        if s.escapes && c = '\\' then scanText s .letter 0 text rest
        else if isPlain c || (s.multi && c = '\n') then scanText s .outside 0 (c :: text) rest
        else none

/-- Passes over a line break right behind opening quotes. -/
def skipFirstBreak : List Char → List Char
  | '\n' :: rest => rest
  | cs => cs

/-- Reads a text on one line, from behind its opening quote. -/
def scanLineText (quote : Char) (cs : List Char) : Option (String × List Char) :=
  scanText ⟨quote, false⟩ .outside 0 [] cs

/-- Reads a text from behind its first opening quote. -/
def scanAnyText (quote : Char) (cs : List Char) : Option (String × List Char) :=
  match cs with
  | a :: b :: rest =>
    if a = quote && b = quote then scanText ⟨quote, true⟩ .outside 0 [] (skipFirstBreak rest)
    else scanLineText quote cs
  | _ => scanLineText quote cs

end ScopeCheck.Toml
