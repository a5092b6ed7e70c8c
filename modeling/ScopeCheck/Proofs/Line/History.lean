import ScopeCheck.Proofs.Line.Occurrence

/-!
# What has happened before

A search is judged by what has happened before it: on the lines that were read before, and on its
own line.

* `Grammar.Run` are the lines of a text up to a state; the states that there are for some lines are
  the reachable ones, `Grammar.reachable_iff_exists_run`;
* `Grammar.VisitsAfter` are the scans that a line comes to, as in `Grammar.Visits`, each with the
  passages that have been read before it, and with the places from which the matches around it were
  searched for; `Grammar.Visits.exists_visitsAfter` says that no scan is left out;
* `Grammar.Searches` are the searches of a line, `Grammar.ReadsLine` is the reading of all of it.
-/

namespace ScopeCheck

variable {ρ : Type} {engine : RegexEngine ρ} {g : Grammar ρ} {scanner : Scanner ρ}
  {text line : Array Char} {state : LineState ρ} {s : Scan ρ} {bound depth : Nat}

/-- The text of a line, with its line feed. -/
def lineText (line : String) : Array Char := (line.toList ++ ['\n']).toArray

namespace Grammar

/-! ## Lines -/

/-- These lines, in their order, lead from the start of a text to a state. -/
inductive Run (engine : RegexEngine ρ) (g : Grammar ρ) : List String → LineState ρ → Prop
  | start : Run engine g [] .initial
  | line {read : List String} {state : LineState ρ} {line : String} {result : LineResult ρ}
      (hrun : Run engine g read state) (hline : g.tokenize engine line state = .ok result) :
      Run engine g (read ++ [line]) result.state

variable {read : List String}

/-- The states to which lines lead are the reachable ones. -/
theorem reachable_iff_exists_run : g.Reachable engine state ↔ ∃ read, g.Run engine read state := by
  constructor
  · intro h
    induction h with
    | initial => exact ⟨[], .start⟩
    | line _ hline ih =>
        obtain ⟨read, hrun⟩ := ih
        exact ⟨_, hrun.line hline⟩
  · rintro ⟨read, h⟩
    induction h with
    | start => exact .initial
    | line _ hline ih => exact .line ih hline

/-- Only before the first line no line has been read. -/
theorem Run.isFresh_iff (h : g.Run engine read state) : state.isFresh = true ↔ read = [] := by
  cases h with
  | start => exact ⟨fun _ => rfl, fun _ => rfl⟩
  | line hrun hline =>
      obtain ⟨s, _, hresult, _⟩ := tokenize_eq_ok hline
      constructor
      · intro hfresh
        rw [hresult] at hfresh
        cases hfresh
      · intro hnil
        cases List.append_eq_nil_iff.1 hnil with
        | intro _ hsingle => cases hsingle

/-! ## Scans -/

/-- The scans that a line comes to.  Each has the passages that have been read before it and, from
the inside, the places from which the matches around it were searched for; the scan of the line
itself has no matches around it. -/
inductive VisitsAfter (engine : RegexEngine ρ) (g : Grammar ρ) (bound : Nat) (line : Array Char)
    (state : LineState ρ) : List Passage → List Nat → Nat → Array Char → Scan ρ → Prop
  | line {s : Scan ρ} (hstart : g.lineStart engine (g.scan engine bound) line state = .ok s) :
      VisitsAfter engine g bound line state (g.linePassages engine line state) [] bound line s
  | condition {past : List Passage} {frame : Frame ρ} {inner : List (Frame ρ)} {point : ScanPoint}
      {pattern : Pattern ρ} {captures : GroupRules} {found : Found} {inside : Array Char}
      {s : Scan ρ} (hchecking : g.Checking engine line state past (frame :: inner) point)
      (hcondition : g.condition? frame = some (pattern, captures))
      (hfound : pattern.search engine (point.query line) = .ok (some found))
      (hgroup : ScansGroupAt point.atTextStart found captures line inside s) :
      VisitsAfter engine g bound line state past [point.pos] bound inside s
  | next {past : List Passage} {around : List Nat} {depth : Nat} {text : Array Char}
      {s s' : Scan ρ} {candidate : Candidate} {found : Found}
      (hvisits : VisitsAfter engine g bound line state past around (depth + 1) text s)
      (hnext : g.next engine text s.point s.stack.top = .ok (some (candidate, found)))
      (hstep : g.step engine (g.scan engine depth) text s = .ok (.next s')) :
      VisitsAfter engine g bound line state
        (past ++ [g.passageOf text s.stack candidate found]) around (depth + 1) text s'
  | inner {past : List Passage} {around : List Nat} {depth : Nat} {text inside : Array Char}
      {s s' : Scan ρ} {candidate : Candidate} {found : Found}
      (hvisits : VisitsAfter engine g bound line state past around (depth + 1) text s)
      (hnext : g.next engine text s.point s.stack.top = .ok (some (candidate, found)))
      (hgroup : ScansGroupAt s.point.atTextStart found (g.capturesOf s.stack candidate) text inside
        s') :
      VisitsAfter engine g bound line state past (s.point.pos :: around) depth inside s'

/-- Every scan that a line comes to has a history. -/
theorem Visits.exists_visitsAfter (h : g.Visits engine bound line state depth text s) :
    ∃ past around, g.VisitsAfter engine bound line state past around depth text s := by
  induction h with
  | line hstart => exact ⟨_, _, .line hstart⟩
  | condition hstarts =>
      obtain ⟨past, frame, inner, point, pattern, captures, found, hchecking, hcondition, hfound,
        hgroup⟩ := hstarts.ofLineStart_at
      -- Nothing of the scan of the line has been read by then, only conditions.
      exact ⟨past, [point.pos], .condition hchecking hcondition hfound hgroup⟩
  | next _ hstep ih =>
      obtain ⟨past, around, hvisits⟩ := ih
      obtain ⟨candidate, found, hnext⟩ := (step_move hstep).exists_next
      exact ⟨_, around, .next hvisits hnext hstep⟩
  | inner _ hstarts ih =>
      obtain ⟨past, around, hvisits⟩ := ih
      obtain ⟨candidate, found, hnext, hgroup⟩ := hstarts.ofStep_at
      exact ⟨past, _, .inner hvisits hnext hgroup⟩

theorem VisitsAfter.goesOn {past : List Passage} {around : List Nat} {last : Scan ρ}
    (hvisits : g.VisitsAfter engine bound line state past around (depth + 1) text s)
    (hrun : Relation.ReflTransGen (g.GoesOn engine (g.scan engine depth) text) s last) :
    ∃ past, g.VisitsAfter engine bound line state past around (depth + 1) text last := by
  induction hrun with
  | refl => exact ⟨past, hvisits⟩
  | tail _ hstep ih =>
      obtain ⟨past, hvisits⟩ := ih
      obtain ⟨candidate, found, hnext⟩ := (step_move hstep).exists_next
      exact ⟨_, hvisits.next hnext hstep⟩

/-- The scan of a line goes on until a step ends it. -/
theorem scanLine_halt {s' : Scan ρ} (h : g.scanLine engine line state = .ok s') :
    ∃ past depth last reason, g.nestingBound line = depth + 1 ∧
      g.VisitsAfter engine (depth + 1) line state past [] (depth + 1) line last ∧
      g.step engine (g.scan engine depth) line last = .ok (.halt reason s') := by
  obtain ⟨start, hstart, hscan⟩ := scanLine_eq_ok h
  obtain ⟨depth, last, reason, hdepth, hrun, hhalt⟩ := scan_eq_ok hscan
  rw [hdepth] at hstart
  obtain ⟨past, hvisits⟩ := (VisitsAfter.line hstart).goesOn hrun
  exact ⟨past, depth, last, reason, hdepth, hvisits, hhalt⟩

/-- The searches of a line: those for the conditions of its open rules, and those for what is tried
in the scan of the line and in the scans of captured text.  Each has the passages that have been
read before it, and the places from which the matches around it were searched for. -/
inductive Searches (engine : RegexEngine ρ) (g : Grammar ρ) (bound : Nat) (line : Array Char)
    (state : LineState ρ) : List Passage → List Nat → Pattern ρ → Query → Prop
  | condition {past : List Passage} {frame : Frame ρ} {inner : List (Frame ρ)} {point : ScanPoint}
      {pattern : Pattern ρ} {captures : GroupRules}
      (hchecking : g.Checking engine line state past (frame :: inner) point)
      (hcondition : g.condition? frame = some (pattern, captures)) :
      Searches engine g bound line state past [] pattern (point.query line)
  | candidate {past : List Passage} {around : List Nat} {depth : Nat} {text : Array Char}
      {s : Scan ρ} {candidate : Candidate} {pattern : Pattern ρ}
      (hvisits : VisitsAfter engine g bound line state past around depth text s)
      (hmem : (candidate, pattern) ∈ g.candidates s.stack.top) :
      Searches engine g bound line state past around pattern (s.point.query text)

/-- A line is read to its end: the passages in their order, and the stack with which the scan of the
line ends.  The last match of the scan may be empty and end it; it adds nothing. -/
def ReadsLine (engine : RegexEngine ρ) (g : Grammar ρ) (line : Array Char) (state : LineState ρ)
    (past : List Passage) (stack : Stack ρ) : Prop :=
  ∃ depth s reason s', g.nestingBound line = depth + 1 ∧
    g.VisitsAfter engine (depth + 1) line state past [] (depth + 1) line s ∧
    g.step engine (g.scan engine depth) line s = .ok (.halt reason s') ∧ s'.stack = stack

end Grammar

end ScopeCheck
