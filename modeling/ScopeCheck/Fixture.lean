import ScopeCheck.Line.Tokenize

/-!
# Fixtures

A fixture is a sample text.  It is split into lines, each line is tokenized with the state that
the one before it left, and the scopes that occur on the line are recorded.
-/

namespace ScopeCheck

open ScopeCheck.Text

/-- Something that tokenizes a text line by line. -/
structure LineMachine (σ : Type) where
  /-- The state before the first line. -/
  initial : σ
  /-- The scopes of the tokens of a line, and the state behind it. -/
  line : String → σ → Except GrammarError (List (List String) × σ)

/-- The tokenizer of a grammar. -/
def Grammar.lineMachine {ρ : Type} (engine : RegexEngine ρ) (g : Grammar ρ) :
    LineMachine (LineState ρ) where
  initial := .initial
  line text state :=
    (g.tokenize engine text state).map fun t => (t.tokens.map Token.scopes, t.state)

/-- What is recorded of a line: its number, counted from one, its text, and its scopes in the
order in which they occur first. -/
structure RecordedLine where
  number : Nat
  text : String
  scopes : List String
  deriving DecidableEq, Inhabited, Repr

/-- The lines of a text.  A line feed ends a line, and a carriage return right before it belongs to
the end. -/
def linesOf : List Char → List (List Char)
  | '\r' :: '\n' :: rest => [] :: linesOf rest
  | '\n' :: rest => [] :: linesOf rest
  | c :: rest =>
    match linesOf rest with
    | line :: lines => (c :: line) :: lines
    | [] => [[c]]
  | [] => [[]]

/-- The elements of a list, each where it occurs first. -/
def firstOccurrences (seen : List String) : List String → List String
  | [] => []
  | s :: rest =>
    if s ∈ seen then firstOccurrences seen rest else s :: firstOccurrences (s :: seen) rest

/-- A line that cannot be tokenized, and why. -/
structure FixtureError where
  line : Nat
  cause : GrammarError
  deriving Inhabited

/-- Tokenizes lines from a state on; `number` is the number of the first one. -/
def recordLines {σ : Type} (t : LineMachine σ) :
    Nat → σ → List (List Char) → Except FixtureError (List RecordedLine)
  | _, _, [] => .ok []
  | number, state, line :: rest =>
    match t.line (String.ofList line) state with
    | .error e => .error ⟨number, e⟩
    | .ok (tokens, next) =>
      match recordLines t (number + 1) next rest with
      | .error e => .error e
      | .ok records =>
        .ok (⟨number, String.ofList line, firstOccurrences [] tokens.flatten⟩ :: records)

/-- Tokenizes a text and records its lines. -/
def recordFixture {σ : Type} (t : LineMachine σ) (text : String) :
    Except FixtureError (List RecordedLine) :=
  recordLines t 1 t.initial (linesOf text.toList)

end ScopeCheck
