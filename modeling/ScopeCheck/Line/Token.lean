import ScopeCheck.Text.Blank
import ScopeCheck.Text.Utf8

/-!
# Tokens

A token is a run of text with one list of scopes.  `Emitted` collects the tokens of a line from
the left: each starts where the one before it ended.
-/

namespace ScopeCheck

open ScopeCheck.Text

/-- A run of text with its scopes, the outermost first. -/
structure Token where
  start : Nat
  stop : Nat
  scopes : List String
  deriving DecidableEq, Inhabited, Repr

/-- The tokens of a line up to a position, the latest first. -/
structure Emitted where
  tokens : List Token
  reached : Nat
  deriving DecidableEq, Inhabited, Repr

namespace Emitted

/-- No tokens. -/
def none : Emitted := ⟨[], 0⟩

/-- Gives everything up to a position these scopes. -/
def upTo (e : Emitted) (scopes : List String) (stop : Nat) : Emitted :=
  if stop ≤ e.reached then e else ⟨⟨e.reached, stop, scopes⟩ :: e.tokens, stop⟩

/-- The tokens of a line of `length` characters.  A token of the line feed alone is dropped, and a
line without tokens gets one with the scopes of plain text. -/
def toTokens (e : Emitted) (length : Nat) (scopes : List String) : List Token :=
  let tokens := match e.tokens with
    | t :: earlier => if t.start = length then earlier else t :: earlier
    | [] => []
  let tokens := if tokens = [] then [⟨0, length + 1, scopes⟩] else tokens
  tokens.reverse.map fun t => { t with stop := min t.stop length }

end Emitted

/-- Scopes with those that a name adds; blanks in the name separate scopes. -/
def withName (scopes : List String) : Option (List Char) → List String
  | .none => scopes
  | some name => scopes ++ (words name).map String.ofList

/-- The number of bytes before each position of a text. -/
def byteOffsets (cs : List Char) : Array Nat :=
  (cs.foldl (fun (offsets, total) c => (offsets.push (total + c.utf8Size), total + c.utf8Size))
    (#[0], 0)).1

/-- A token with positions in bytes. -/
def Token.inBytes (offsets : Array Nat) (t : Token) : Token :=
  { t with start := (offsets[t.start]?).getD 0, stop := (offsets[t.stop]?).getD 0 }

end ScopeCheck
