import Mathlib.Data.List.Permutation
import ScopeCheck.Proofs.Grammar.Coherent
import ScopeCheck.Proofs.Line.Conditions

/-!
# States, scans and stacks that occur

What is proved of the tokenizer is proved of what occurs when a text is read line by line.

* `Grammar.Reachable` are the states between lines;
* `Grammar.Visits` are the scans between two steps, in the line itself and in captured text;
* `Grammar.StackInvariant` says that a property of stacks holds at the start of a text and is kept
  by scans.  `Reachable.keeps` and `Visits.keeps` conclude that it holds of all stacks that occur.
-/

namespace ScopeCheck

variable {ρ : Type} {engine : RegexEngine ρ} {g : Grammar ρ} {scanner : Scanner ρ}
  {text line : Array Char} {state : LineState ρ} {s : Scan ρ} {bound depth : Nat}

namespace Grammar

/-- The states to which the lines of a text lead. -/
inductive Reachable (engine : RegexEngine ρ) (g : Grammar ρ) : LineState ρ → Prop
  | initial : Reachable engine g .initial
  | line {state : LineState ρ} {line : String} {result : LineResult ρ}
      (hstate : Reachable engine g state) (hline : g.tokenize engine line state = .ok result) :
      Reachable engine g result.state

/-- The scans that a line comes to, each with its text and with how deep further scans may stand
inside it.  `bound` is that depth for the line itself. -/
inductive Visits (engine : RegexEngine ρ) (g : Grammar ρ) (bound : Nat) (line : Array Char)
    (state : LineState ρ) : Nat → Array Char → Scan ρ → Prop
  | line {s : Scan ρ} (hstart : g.lineStart engine (g.scan engine bound) line state = .ok s) :
      Visits engine g bound line state bound line s
  | condition {inside : Array Char} {s : Scan ρ}
      (hstarts : Starts (fun scanner => g.lineStart engine scanner line state)
        (g.scan engine bound) inside s) :
      Visits engine g bound line state bound inside s
  | next {depth : Nat} {text : Array Char} {s s' : Scan ρ}
      (hvisits : Visits engine g bound line state (depth + 1) text s)
      (hstep : g.step engine (g.scan engine depth) text s = .ok (.next s')) :
      Visits engine g bound line state (depth + 1) text s'
  | inner {depth : Nat} {text inside : Array Char} {s s' : Scan ρ}
      (hvisits : Visits engine g bound line state (depth + 1) text s)
      (hstarts : Starts (fun scanner => g.step engine scanner text s) (g.scan engine depth)
        inside s') :
      Visits engine g bound line state depth inside s'

/-- What the result of a line is made of. -/
theorem tokenize_eq_ok {line : String} {result : LineResult ρ}
    (h : g.tokenize engine line state = .ok result) :
    ∃ s, g.scanLine engine (line.toList ++ ['\n']).toArray state = .ok s ∧
      result.state = .inside s.stack ∧
      result.tokens = (s.emitted.toTokens line.toList.length s.stack.bodyScopes).map
        (·.inBytes (byteOffsets line.toList)) := by
  unfold tokenize at h
  split at h
  · cases h
  · cases h
  · rename_i chars hchars
    obtain rfl := Except.ok.inj h
    unfold tokenizeChars at hchars
    split at hchars
    · cases hchars
    · rename_i s hs
      obtain rfl := Except.ok.inj hchars
      exact ⟨s, hs, rfl, rfl⟩

theorem scanLine_eq_ok (h : g.scanLine engine text state = .ok s) :
    ∃ start, g.lineStart engine (g.scan engine (g.nestingBound text)) text state = .ok start ∧
      g.scan engine (g.nestingBound text) text start = .ok s := by
  rw [scanLine_eq] at h
  split at h
  · cases h
  · rename_i start hstart
    exact ⟨start, hstart, h⟩

/-! ## Stacks -/

/-- A property of stacks that a text starts with and that scans keep. -/
structure StackInvariant (engine : RegexEngine ρ) (g : Grammar ρ) (I : Stack ρ → Prop) : Prop where
  root : I (Stack.root g.root g.scopeName)
  forNextLine : ∀ stack, I stack → I stack.forNextLine
  outer : ∀ stack outer, I stack → outer.frames <:+ stack.frames → I outer
  enter : ∀ text id closing found (s : Scan ρ), (g.rule id).closing? = some closing → I s.stack →
    I (s.stack.push (g.frameOf engine text id closing found s))

/-- The frames of a stack that has been left are the outer ones. -/
theorem pop_frames (stack : Stack ρ) : stack.pop.frames <:+ stack.frames := by
  obtain ⟨top, below⟩ := stack
  cases below with
  | nil => exact List.suffix_refl _
  | cons next below => exact List.suffix_cons top (next :: below)

variable {I : Stack ρ → Prop}

theorem StackInvariant.move (hI : g.StackInvariant engine I) {r : ScanStep ρ}
    (hmove : g.Move engine scanner text s r) (hs : I s.stack) : I r.scan.stack := by
  cases hmove with
  | noMatch => exact hs
  | leave => exact hI.outer _ _ hs (pop_frames s.stack)
  | emptyRegion => exact hs
  | single => exact hs
  | emptyMatch => exact hI.outer _ _ hs (pop_frames s.stack)
  | enter hclosing => exact hI.enter _ _ _ _ s hclosing hs
  | entered => exact hs
  | container => exact hs

theorem StackInvariant.scan (hI : g.StackInvariant engine I) (hs : I s.stack) {s' : Scan ρ}
    (h : g.scan engine depth text s = .ok s') : I s'.stack := by
  have hrelates := scan_relates engine g (fun _ s => I s.stack) (fun _ _ _ => True)
    (fun _ _ => trivial) (fun _ hs hstep => ⟨trivial, hI.move (step_move hstep) hs⟩) hs h
  exact hrelates.2

theorem StackInvariant.lineStack (hI : g.StackInvariant engine I)
    (hstate : ∀ stack, state = .inside stack → I stack) : I (g.lineStack state) := by
  cases state with
  | initial => exact hI.root
  | inside stack => exact hI.forNextLine stack (hstate stack rfl)

theorem StackInvariant.lineStart (hI : g.StackInvariant engine I)
    (hstate : ∀ stack, state = .inside stack → I stack)
    (h : g.lineStart engine scanner text state = .ok s) : I s.stack :=
  hI.outer (g.lineStack state) s.stack (hI.lineStack hstate) (lineStart_frames h)

/-- An invariant holds of every stack between lines. -/
theorem Reachable.keeps (hI : g.StackInvariant engine I) (h : g.Reachable engine state) :
    ∀ stack, state = .inside stack → I stack := by
  induction h with
  | initial =>
      intro stack hstack
      cases hstack
  | line hstate hline ih =>
      intro stack hstack
      obtain ⟨s, hscan, hresult, _⟩ := tokenize_eq_ok hline
      obtain ⟨start, hstart, hrun⟩ := scanLine_eq_ok hscan
      obtain rfl : s.stack = stack := LineState.inside.inj (hresult.symm.trans hstack)
      exact hI.scan (hI.lineStart ih hstart) hrun

theorem Reachable.keeps_lineStack (hI : g.StackInvariant engine I) (h : g.Reachable engine state) :
    I (g.lineStack state) :=
  hI.lineStack (h.keeps hI)

/-- An invariant that holds where captured text is scanned holds of every stack of a scan. -/
theorem Visits.keeps_captures (hI : g.StackInvariant engine I)
    (hinner : ∀ id number rule container base text found atTextStart start before,
      (number, rule) ∈ (g.rule id).entryCaptures ++ (g.rule id).closingCaptures →
      rule.inner = some container →
      I (innerScan container base rule text found atTextStart start before : Scan ρ).stack)
    (hstate : g.Reachable engine state) (h : g.Visits engine bound line state depth text s) :
    I s.stack := by
  have hgroup : ∀ {id text inside s},
      ScansGroup ((g.rule id).entryCaptures ++ (g.rule id).closingCaptures) text inside s →
        I s.stack := by
    intro id text inside s hgroup
    obtain ⟨number, rule, container, hmem, hrule, _, _, _, _, _, _, _, rfl⟩ := hgroup
    exact hinner id number rule container _ _ _ _ _ _ hmem hrule
  induction h with
  | line hstart => exact hI.lineStart (hstate.keeps hI) hstart
  | condition hstarts =>
      obtain ⟨id, hclosing⟩ := Starts.ofLineStart hstarts
      exact hgroup (hclosing.mono (List.subset_append_right (g.rule id).entryCaptures _))
  | next _ hstep ih => exact hI.move (step_move hstep) ih
  | inner _ hstarts =>
      obtain ⟨id, hcaptures⟩ := Starts.ofStep hstarts
      exact hgroup hcaptures

/-- In a coherent grammar captured text is scanned with containers. -/
theorem Visits.keeps (hI : g.StackInvariant engine I) (hcoherent : g.Coherent)
    (hinner : ∀ container base rule text found atTextStart start before,
      g.IsContainer container →
      I (innerScan container base rule text found atTextStart start before : Scan ρ).stack)
    (hstate : g.Reachable engine state) (h : g.Visits engine bound line state depth text s) :
    I s.stack := by
  refine h.keeps_captures hI ?_ hstate
  intro id number rule container base text found atTextStart start before hmem hrule
  exact hinner _ _ _ _ _ _ _ _ (hcoherent.inner_container id number rule container hmem hrule)

end Grammar

/-! ## A small grammar

Regions go from `<` to the same again and `>`, and the captures at both ends look for `<` once
more. -/

namespace Sample

/-- The document of the grammar. -/
def document : Document :=
  let angle : Entry := { Entry.blank with matchSource := some "<", name := some "lt" }
  let whole : Entry := { Entry.blank with name := some "cap", patterns := some [angle] }
  let tag : Entry := { Entry.blank with
    beginSource := some "<"
    endSource := some "\\0>"
    name := some "tag  x"
    contentName := some "body"
    captures := some [("0", whole)] }
  { Document.blank with patterns := [tag] }

/-- A source as a pattern. -/
def pattern (source : String) : Pattern (List Char) := .ofSource .literal source

/-- The grammar that is read from the document. -/
def grammar : Grammar (List Char) where
  scopeName := "s"
  rules :=
    let whole (inner : RuleIndex) : GroupRule := ⟨some ⟨"cap"⟩, none, some inner⟩
    #[⟨none, none, .container [1]⟩,
      ⟨some ⟨"tag  x"⟩, some ⟨"body"⟩,
        .region (pattern "<") [(0, whole 2)] (pattern "\\0>") [(0, whole 4)] false []⟩,
      ⟨none, none, .container [3]⟩,
      ⟨some ⟨"lt"⟩, none, .single (pattern "<") []⟩,
      ⟨none, none, .container [3]⟩]
  root := 0
  entries := #[[1], [], [3], [], [3]]

theorem grammar_loaded : grammar.Loaded .literal := by
  refine ⟨.ofDocuments [("s", document)], "s", ?_⟩
  cbv

/-- The stack behind a line that opens a region. -/
def opened : Stack (List Char) :=
  ⟨⟨1, some 0, none, false, ["s", "tag", "x"], ["s", "tag", "x", "body"], some (pattern "<>")⟩,
    (Stack.root 0 "s").frames⟩

theorem opened_reachable : grammar.Reachable .literal (.inside opened) := by
  have hline : grammar.tokenize .literal "a<b" .initial =
      .ok ⟨[⟨0, 1, ["s"]⟩, ⟨1, 2, ["s", "tag", "x", "cap", "lt"]⟩,
        ⟨2, 3, ["s", "tag", "x", "body"]⟩], .inside opened⟩ := by
    rfl
  exact .line .initial hline

/-- A line that starts with the end of the region. -/
def closingLine : Array Char := #['<', '>', 'c', '\n']

/-- Where its scan starts. -/
def start : Scan (List Char) := ⟨⟨0, none, false⟩, opened.forNextLine, .none⟩

theorem start_visited : grammar.Visits .literal 2 closingLine (.inside opened) 2 closingLine
    start :=
  .line rfl

end Sample

end ScopeCheck
