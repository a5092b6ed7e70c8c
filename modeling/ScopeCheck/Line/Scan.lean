import ScopeCheck.Line.Groups

/-!
# Scanning a text

At every position the patterns that are open there are searched for, and the leftmost match wins;
of several that start there, the one that is listed first.

* `Grammar.candidates` are the patterns in their order.
* `firstOf` picks the winner.
* `Grammar.step` does what the winner asks for, or ends the scan.
* `Grammar.scan` repeats steps to the end; scans of captured text stand inside it.
-/

namespace ScopeCheck

variable {ρ : Type}

/-- What has been matched. -/
inductive Candidate
  /-- The end of the innermost open rule. -/
  | last
  /-- The start of a rule. -/
  | rule (id : RuleIndex)
  deriving DecidableEq, Repr

namespace ScanPoint

/-- The search at a position. -/
def query (c : ScanPoint) (text : Array Char) : Query :=
  ⟨text, c.pos, c.atTextStart, c.anchor == some c.pos⟩

/-- The point behind a match. -/
def moveTo (c : ScanPoint) (stop : Nat) : ScanPoint :=
  { c with pos := stop, atTextStart := c.atTextStart && stop ≤ c.pos }

end ScanPoint

/-- The first of the leftmost matches.  A match at `pos` ends the search. -/
def firstOf (search : Pattern ρ → Except PatternError (Option Found)) (pos : Nat) :
    Option (Candidate × Found) → List (Candidate × Pattern ρ) →
      Except PatternError (Option (Candidate × Found))
  | best, [] => .ok best
  | best, (candidate, pattern) :: rest =>
    match search pattern with
    | .error e => .error e
    | .ok none => firstOf search pos best rest
    | .ok (some found) =>
      let better := match best with
        | none => true
        | some (_, current) => found.whole.start < current.whole.start
      let best := if better then some (candidate, found) else best
      if found.whole.start = pos then .ok best else firstOf search pos best rest

namespace Grammar

/-- The patterns that are tried inside a frame, in order. -/
def candidates (g : Grammar ρ) (frame : Frame ρ) : List (Candidate × Pattern ρ) :=
  let starts := (g.entriesOf frame.rule).filterMap fun id =>
    ((g.rule id).entryPattern?).map fun p => (.rule id, p)
  match (g.rule frame.rule).form with
  | .region _ _ last _ lastIsTriedLast _ =>
    let ends := (Candidate.last, frame.filledLast.getD last)
    if lastIsTriedLast then starts ++ [ends] else ends :: starts
  | _ => starts

/-- What is matched at the point. -/
def next (engine : RegexEngine ρ) (g : Grammar ρ) (text : Array Char) (point : ScanPoint)
    (frame : Frame ρ) : Except PatternError (Option (Candidate × Found)) :=
  firstOf (fun p => p.search engine (point.query text)) point.pos none (g.candidates frame)

end Grammar

/-- Why a scan ends. -/
inductive Halt
  /-- Nothing matches any more. -/
  | noMatch
  /-- A rule has matched the empty text. -/
  | emptyMatch
  /-- A rule would end where it was entered. -/
  | emptyRegion
  /-- A rule would be entered again where it was entered. -/
  | entered
  deriving DecidableEq, Repr

/-- What a step leads to. -/
inductive ScanStep (ρ : Type)
  | next (s : Scan ρ)
  | halt (reason : Halt) (s : Scan ρ)

namespace Scan

/-- Gives everything up to a position these scopes. -/
def upTo (s : Scan ρ) (scopes : List String) (stop : Nat) : Scan ρ :=
  { s with emitted := s.emitted.upTo scopes stop }

/-- Ends a scan: the rest of the text gets these scopes. -/
def halt (s : Scan ρ) (reason : Halt) (scopes : List String) (text : Array Char) : ScanStep ρ :=
  .halt reason (s.upTo scopes text.size)

end Scan

namespace Grammar

/-- The captures of the end of a rule. -/
def lastCaptures (g : Grammar ρ) (id : RuleIndex) : GroupRules :=
  match (g.rule id).form with
  | .region _ _ _ captures _ _ => captures
  | _ => []

/-- Gives the groups of a match their scopes and the rest of it those of `base`. -/
def coverMatch (scanner : Scanner ρ) (text : Array Char) (base : List String)
    (captures : GroupRules) (found : Found) (s : Scan ρ) : Except ScanError (Scan ρ) :=
  match captureScopes scanner text s.point.atTextStart base found captures [] s.emitted with
  | .error e => .error e
  | .ok emitted => .ok ({ s with emitted }.upTo base found.whole.stop)

/-- Leaves the innermost rule. -/
def stepLast (g : Grammar ρ) (scanner : Scanner ρ) (text : Array Char) (found : Found)
    (s : Scan ρ) : Except ScanError (ScanStep ρ) :=
  let frame := s.stack.top
  let before := s.upTo frame.bodyScopes found.whole.start
  match coverMatch scanner text frame.matchScopes (g.lastCaptures frame.rule) found before with
  | .error e => .error e
  | .ok s =>
    if found.whole.stop ≤ s.point.pos ∧ frame.openedAt = some s.point.pos then
      .ok (s.halt .emptyRegion frame.bodyScopes text)
    else
      let point :=
        if s.stack.canPop then { s.point with anchor := frame.anchor } else s.point
      .ok (.next { s with stack := s.stack.pop, point := point.moveTo found.whole.stop })

/-- The end or while pattern of a frame, where it quotes the begin match. -/
def filledLast (engine : RegexEngine ρ) (last : Pattern ρ) (text : Array Char)
    (found : Found) : Option (Pattern ρ) :=
  if last.quotesBegin then some (last.fill engine text found) else none

/-- Enters a rule. -/
def stepEnter (engine : RegexEngine ρ) (scanner : Scanner ρ) (text : Array Char)
    (id : RuleIndex) (rule : Rule ρ) (matchScopes : List String) (captures : GroupRules)
    (last : Pattern ρ) (found : Found) (s : Scan ρ) : Except ScanError (ScanStep ρ) :=
  match coverMatch scanner text matchScopes captures found s with
  | .error e => .error e
  | .ok s =>
    let pos := s.point.pos
    let stop := found.whole.stop
    if stop ≤ pos ∧ s.stack.justOpened id pos then
      .ok (s.halt .entered s.stack.bodyScopes text)
    else
      let bodyScopes :=
        withName matchScopes (rule.contentName.map fun t => t.fill text found)
      let frame : Frame ρ :=
        ⟨id, some pos, s.point.anchor, stop = text.size, matchScopes, bodyScopes,
          filledLast engine last text found⟩
      let point := { s.point with anchor := some stop }
      .ok (.next { s with stack := s.stack.push frame, point := point.moveTo stop })

/-- Matches a rule without a region. -/
def stepSingle (scanner : Scanner ρ) (text : Array Char) (matchScopes : List String)
    (captures : GroupRules) (found : Found) (s : Scan ρ) : Except ScanError (ScanStep ρ) :=
  match coverMatch scanner text matchScopes captures found s with
  | .error e => .error e
  | .ok s =>
    if found.whole.stop ≤ s.point.pos then
      let s := { s with stack := s.stack.pop }
      .ok (s.halt .emptyMatch s.stack.bodyScopes text)
    else .ok (.next { s with point := s.point.moveTo found.whole.stop })

/-- Matches a rule of a list of patterns. -/
def stepRule (engine : RegexEngine ρ) (g : Grammar ρ) (scanner : Scanner ρ) (text : Array Char)
    (id : RuleIndex) (found : Found) (s : Scan ρ) : Except ScanError (ScanStep ρ) :=
  let rule := g.rule id
  let before := s.upTo s.stack.bodyScopes found.whole.start
  let matchScopes :=
    withName s.stack.bodyScopes (rule.name.map fun t => t.fill text found)
  match rule.form with
  | .single _ captures => stepSingle scanner text matchScopes captures found before
  | .region _ captures last _ _ _ =>
    stepEnter engine scanner text id rule matchScopes captures last found before
  | .during _ captures condition _ _ =>
    stepEnter engine scanner text id rule matchScopes captures condition found before
  | .container _ => .ok (before.halt .noMatch before.stack.bodyScopes text)

/-- One step of a scan. -/
def step (engine : RegexEngine ρ) (g : Grammar ρ) (scanner : Scanner ρ) (text : Array Char)
    (s : Scan ρ) : Except ScanError (ScanStep ρ) :=
  match g.next engine text s.point s.stack.top with
  | .error e => .error (.pattern e)
  | .ok none => .ok (s.halt .noMatch s.stack.bodyScopes text)
  | .ok (some (.last, found)) => g.stepLast scanner text found s
  | .ok (some (.rule id, found)) => g.stepRule engine scanner text id found s

/-- Repeats steps until the scan ends, at most `fuel` times. -/
def steps (engine : RegexEngine ρ) (g : Grammar ρ) (scanner : Scanner ρ) (text : Array Char) :
    Nat → Scan ρ → Except ScanError (Scan ρ)
  | 0, _ => .error .stalled
  | fuel + 1, s =>
    match g.step engine scanner text s with
    | .error e => .error e
    | .ok (.next s) => steps engine g scanner text fuel s
    | .ok (.halt _ s) => .ok s

/-- More steps than a scan can make: between two steps that move on, rules are left that were open
before, and then rules are entered, each once. -/
def stepBound (g : Grammar ρ) (text : Array Char) (s : Scan ρ) : Nat :=
  s.stack.depth + 2 * (text.size + 1) * (g.rules.size + 2) + 1

/-- Runs a scan to its end; at most `depth` scans may stand inside each other. -/
def scan (engine : RegexEngine ρ) (g : Grammar ρ) :
    Nat → Array Char → Scan ρ → Except ScanError (Scan ρ)
  | 0, _, _ => .error .endless
  | depth + 1, text, s =>
    g.steps engine (fun text s => scan engine g depth text s) text (g.stepBound text s) s

end Grammar

end ScopeCheck
