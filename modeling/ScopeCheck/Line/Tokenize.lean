import ScopeCheck.Grammar.Error
import ScopeCheck.Line.Scan

/-!
# Tokenizing lines

`Grammar.tokenize` turns one line into tokens, given the state that the line before it left.
A line feed is put behind the line.  First the conditions of open rules are checked, from the
outside: the first rule whose condition fails is left, with all that was opened inside it.  What
follows is scanned.
-/

namespace ScopeCheck

variable {ρ : Type}

/-- The tokens of a line, with positions in bytes, and the state behind it. -/
structure LineResult (ρ : Type) where
  tokens : List Token
  state : LineState ρ

namespace Grammar

/-- The condition under which a rule goes on at the next line, and its captures. -/
def condition? (g : Grammar ρ) (frame : Frame ρ) : Option (Pattern ρ × GroupRules) :=
  match (g.rule frame.rule).form with
  | .during _ _ condition captures _ => some (frame.filledLast.getD condition, captures)
  | _ => none

/-- The stack with these frames, from the inside; `bottom` is taken when there are none. -/
def stackOf (bottom : Frame ρ) : List (Frame ρ) → Stack ρ
  | [] => ⟨bottom, []⟩
  | top :: below => ⟨top, below⟩

/-- Checks the conditions of frames, the outermost first; `kept` are the frames that go on, from
the inside. -/
def checkConditions (engine : RegexEngine ρ) (g : Grammar ρ) (scanner : Scanner ρ)
    (text : Array Char) (bottom : Frame ρ) :
    List (Frame ρ) → List (Frame ρ) → ScanPoint → Emitted → Except ScanError (Scan ρ)
  | kept, [], point, out => .ok ⟨point, stackOf bottom kept, out⟩
  | kept, frame :: inner, point, out =>
    match g.condition? frame with
    | none => checkConditions engine g scanner text bottom (frame :: kept) inner point out
    | some (pattern, captures) =>
      match pattern.search engine (point.query text) with
      | .error e => .error (.pattern e)
      | .ok none => .ok ⟨point, stackOf bottom kept, out⟩
      | .ok (some found) =>
        let out := out.upTo frame.bodyScopes found.whole.start
        match captureScopes scanner text point.atTextStart frame.bodyScopes found captures []
            out with
        | .error e => .error e
        | .ok out =>
          let out := out.upTo frame.bodyScopes found.whole.stop
          let point := { point with anchor := some found.whole.stop }.moveTo found.whole.stop
          checkConditions engine g scanner text bottom (frame :: kept) inner point out

/-- More scans than can stand inside each other without one being repeated: each has a container,
a start, an end and a place on the first line or not. -/
def nestingBound (g : Grammar ρ) (text : Array Char) : Nat :=
  2 * (g.rules.size + 1) * (text.size + 1) * (text.size + 1) + 1

/-- The stack with which a line starts. -/
def lineStack (g : Grammar ρ) : LineState ρ → Stack ρ
  | .initial => Stack.root g.root g.scopeName
  | .inside stack => stack.forNextLine

/-- Where a line starts. -/
def startPoint (state : LineState ρ) (stack : Stack ρ) : ScanPoint :=
  ⟨0, if stack.top.tookLineEnd then some 0 else none, state.isFresh⟩

/-- Scans a line, with a line feed behind it. -/
def scanLine (engine : RegexEngine ρ) (g : Grammar ρ) (text : Array Char) (state : LineState ρ) :
    Except ScanError (Scan ρ) :=
  let scanner := g.scan engine (g.nestingBound text)
  let stack := g.lineStack state
  let outermost := stack.frames.reverse
  match g.checkConditions engine scanner text (outermost.headD stack.top) [] outermost
      (startPoint state stack) .none with
  | .error e => .error e
  | .ok s => scanner text s

/-- The tokens of a line, with positions in characters, and the state behind it. -/
def tokenizeChars (engine : RegexEngine ρ) (g : Grammar ρ) (line : List Char)
    (state : LineState ρ) : Except ScanError (LineResult ρ) :=
  match g.scanLine engine (line ++ ['\n']).toArray state with
  | .error e => .error e
  | .ok s => .ok ⟨s.emitted.toTokens line.length s.stack.bodyScopes, .inside s.stack⟩

/-- Tokenizes a line. -/
def tokenize (engine : RegexEngine ρ) (g : Grammar ρ) (line : String) (state : LineState ρ) :
    Except GrammarError (LineResult ρ) :=
  match g.tokenizeChars engine line.toList state with
  | .error (.pattern e) => .error (.pattern e)
  | .error _ => .error .endless
  | .ok t =>
    let offsets := byteOffsets line.toList
    .ok { t with tokens := t.tokens.map (·.inBytes offsets) }

end Grammar

end ScopeCheck
