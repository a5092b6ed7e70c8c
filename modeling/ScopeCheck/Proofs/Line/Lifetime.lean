import Mathlib.Logic.Relation
import ScopeCheck.Proofs.Grammar.Compiled
import ScopeCheck.Proofs.Line.Layers
import ScopeCheck.Proofs.Pattern.Filled

/-!
# The life of a frame

A frame is put on the stack by a step that enters a rule, and it stays there while others are put on
top of it and taken away again, over any number of lines, until it is taken away itself.

* `Moment` and `Grammar.Onward`: a text is read from moment to moment, and `Grammar.Lives` are the
  moments of the life of a frame;
* `Grammar.Onward.frames`: from one moment to the next a frame is put on top of the stack, or some
  are taken away from the top; the others only lose the positions of their line;
* `Grammar.Lives.keeps`: a frame is the same at all moments of its life.

What is searched for as the end or the condition of the rule of a frame is fixed by the match with
which the rule was entered: `Grammar.Loaded.entry_fixes_closing`.
-/

namespace ScopeCheck

variable {ρ : Type} {engine : RegexEngine ρ} {g : Grammar ρ} {scanner : Scanner ρ}
  {text : Array Char} {state : LineState ρ} {s s' : Scan ρ} {f : Frame ρ}

/-! ## Moments -/

/-- A moment in the reading of a text. -/
inductive Moment (ρ : Type)
  /-- Between two lines. -/
  | between (stack : Stack ρ)
  /-- Before the conditions of a line are checked. -/
  | starting (line : Array Char) (stack : Stack ρ)
  /-- Between two steps of the scan of a line or of captured text. -/
  | scanning (text : Array Char) (s : Scan ρ)

namespace Moment

/-- The open rules. -/
def stack : Moment ρ → Stack ρ
  | between stack => stack
  | starting _ stack => stack
  | scanning _ s => s.stack

/-- The open rules without the positions of their line. -/
def frames (m : Moment ρ) : List (Frame ρ) := m.stack.frames.map Frame.forNextLine

@[simp] theorem length_frames (m : Moment ρ) : m.frames.length = m.stack.depth :=
  List.length_map _

end Moment

/-- The positions of its line are all that a frame loses from one line to the next. -/
theorem Frame.eq_of_forNextLine_eq {f' : Frame ρ} (h : f'.forNextLine = f.forNextLine) :
    f'.rule = f.rule ∧ f'.matchScopes = f.matchScopes ∧ f'.bodyScopes = f.bodyScopes ∧
      f'.filledLast = f.filledLast := by
  obtain ⟨hrule, _, _, _, hmatch, hbody, hfilled⟩ := Frame.mk.inj h
  exact ⟨hrule, hmatch, hbody, hfilled⟩

namespace Grammar

/-- What may come after a moment, whatever scans of captured text give on the way.  No line is read
with the stack of a scan of captured text; that one might be makes no difference here. -/
inductive Onward (engine : RegexEngine ρ) (g : Grammar ρ) : Moment ρ → Moment ρ → Prop
  | line {stack : Stack ρ} {line : Array Char} :
      Onward engine g (.between stack) (.starting line (g.lineStack (.inside stack)))
  | check {scanner : Scanner ρ} {state : LineState ρ} {line : Array Char} {s : Scan ρ}
      (hstart : g.lineStart engine scanner line state = .ok s) :
      Onward engine g (.starting line (g.lineStack state)) (.scanning line s)
  | step {scanner : Scanner ρ} {text : Array Char} {s s' : Scan ρ}
      (hstep : g.step engine scanner text s = .ok (.next s')) :
      Onward engine g (.scanning text s) (.scanning text s')
  | halt {scanner : Scanner ρ} {text : Array Char} {s s' : Scan ρ} {reason : Halt}
      (hstep : g.step engine scanner text s = .ok (.halt reason s')) :
      Onward engine g (.scanning text s) (.between s'.stack)

/-- The moments from `birth` on at which more than `outer` rules are open.  At `birth` there is one
more, so its frame has not been taken away at any of them. -/
inductive Lives (engine : RegexEngine ρ) (g : Grammar ρ) (outer : Nat) (birth : Moment ρ) :
    Moment ρ → Prop
  | born : Lives engine g outer birth birth
  | onward {m m' : Moment ρ} (hlives : Lives engine g outer birth m)
      (honward : g.Onward engine m m') (hdepth : outer < m'.stack.depth) :
      Lives engine g outer birth m'

/-- Tokenizing a line leads from the moment at which it starts to the one behind it. -/
theorem onward_tokenize {line : String} {result : LineResult ρ}
    (h : g.tokenize engine line state = .ok result) :
    ∃ stack, result.state = .inside stack ∧
      Relation.ReflTransGen (g.Onward engine)
        (.starting (line.toList ++ ['\n']).toArray (g.lineStack state)) (.between stack) := by
  obtain ⟨s, hscan, hresult, _⟩ := tokenize_eq_ok h
  obtain ⟨start, hstart, hrun⟩ := scanLine_eq_ok hscan
  obtain ⟨depth, last, reason, _, hsteps, hhalt⟩ := scan_eq_ok hrun
  have hscanned := hsteps.lift (Moment.scanning _) fun _ _ hstep => Onward.step hstep
  exact ⟨s.stack, hresult, .head (.check hstart) (hscanned.tail (.halt hhalt))⟩

/-! ## Frames -/

/-- A step takes frames away from the top of the stack, or it puts one there. -/
theorem Move.frames {r : ScanStep ρ} (hmove : g.Move engine scanner text s r) :
    r.scan.stack.frames <:+ s.stack.frames ∨
      ∃ f, r.scan.stack.frames = f :: s.stack.frames := by
  cases hmove with
  | noMatch => exact Or.inl (List.suffix_refl _)
  | leave => exact Or.inl (pop_frames s.stack)
  | emptyRegion => exact Or.inl (List.suffix_refl _)
  | single => exact Or.inl (List.suffix_refl _)
  | emptyMatch => exact Or.inl (pop_frames s.stack)
  | enter => exact Or.inr ⟨_, rfl⟩
  | entered => exact Or.inl (List.suffix_refl _)
  | container => exact Or.inl (List.suffix_refl _)

/-- A frame that a step puts on the stack is that of a rule whose begin has matched. -/
theorem Move.eq_frameOf (hmove : g.Move engine scanner text s (.next s'))
    (hpush : s'.stack.frames = f :: s.stack.frames) :
    ∃ id found closing, g.next engine text s.point s.stack.top = .ok (some (.rule id, found)) ∧
      (g.rule id).closing? = some closing ∧ f = g.frameOf engine text id closing found s := by
  have hlonger : ¬ f :: s.stack.frames <:+ s.stack.frames := fun hsuffix =>
    absurd hsuffix.length_le (Nat.not_succ_le_self _)
  cases hmove with
  | leave => exact absurd (hpush ▸ pop_frames s.stack) hlonger
  | single => exact absurd (hpush ▸ List.suffix_refl _) hlonger
  | @enter id found out closing hclosing hcover =>
      exact ⟨id, found, closing, hcover.1, hclosing, (List.cons.inj hpush).1.symm⟩

theorem forNextLine_map_forNextLine (frames : List (Frame ρ)) :
    (frames.map Frame.forNextLine).map Frame.forNextLine = frames.map Frame.forNextLine := by
  rw [List.map_map]
  rfl

/-- From one moment to the next, frames are taken away from the top of the stack, or one is put
there. -/
theorem Onward.frames {m m' : Moment ρ} (h : g.Onward engine m m') :
    m'.frames <:+ m.frames ∨ ∃ f, m'.frames = f :: m.frames := by
  have hmove : ∀ {text : Array Char} {s : Scan ρ} {r : ScanStep ρ} {scanner : Scanner ρ},
      g.step engine scanner text s = .ok r →
      r.scan.stack.frames.map Frame.forNextLine <:+ s.stack.frames.map Frame.forNextLine ∨
        ∃ f, r.scan.stack.frames.map Frame.forNextLine =
          f :: s.stack.frames.map Frame.forNextLine := by
    intro text s r scanner hstep
    rcases (step_move hstep).frames with hsuffix | ⟨f, hpush⟩
    · exact Or.inl (hsuffix.map Frame.forNextLine)
    · exact Or.inr ⟨f.forNextLine, by rw [hpush, List.map_cons]⟩
  cases h with
  | @line stack =>
      left
      show (stack.frames.map Frame.forNextLine).map Frame.forNextLine <:+ _
      rw [forNextLine_map_forNextLine]
      exact List.suffix_refl _
  | check hstart => exact Or.inl ((lineStart_frames hstart).map Frame.forNextLine)
  | step hstep => exact hmove hstep
  | halt hstep => exact hmove hstep

/-- What lies at the bottom of the stack stays there while the stack does not get lower than it. -/
theorem Lives.keeps {outer : Nat} {birth m : Moment ρ} (h : g.Lives engine outer birth m)
    {kept : List (Frame ρ)} (hkept : kept <:+ birth.frames) (hlength : kept.length = outer + 1) :
    kept <:+ m.frames := by
  induction h with
  | born => exact hkept
  | @onward m m' _ honward hdepth ih =>
      rcases honward.frames with hsuffix | ⟨f, hpush⟩
      · -- Both are at the bottom of the earlier stack, and what is kept is not the longer one.
        have hlower : kept.length ≤ m'.frames.length := by
          rw [hlength, Moment.length_frames]
          exact hdepth
        exact List.suffix_of_suffix_length_le ih hsuffix hlower
      · rw [hpush]
        exact ih.trans (List.suffix_cons f _)

/-! ## What is searched for -/

/-- One pattern is searched for as the end or the condition of the rule of a frame. -/
theorem closingSearch_iff {closing searched : Pattern ρ}
    (hclosing : (g.rule f.rule).closing? = some closing) :
    g.ClosingSearch f searched ↔ searched = f.filledLast.getD closing := by
  constructor
  · intro h
    obtain ⟨own, hown, rfl⟩ := h.eq_getD
    rw [Option.some.inj (hown.symm.trans hclosing)]
  · rintro rfl
    unfold Rule.closing? at hclosing
    split at hclosing
    · -- The end of a region is tried before what is listed in it, or after it.
      rename_i first firstCaptures last lastCaptures lastIsTriedLast patterns hform
      obtain rfl := Option.some.inj hclosing
      left
      simp only [candidates, hform]
      split
      · exact List.mem_append_right _ (List.mem_singleton_self _)
      · exact List.mem_cons_self
    · -- A condition is only checked where a line starts.
      rename_i first firstCaptures condition captures patterns hform
      obtain rfl := Option.some.inj hclosing
      right
      exact ⟨captures, by simp only [condition?, hform]⟩
    · cases hclosing

/-- What stands in a frame for the pattern of its rule is that pattern, filled by the match with
which the rule was entered. -/
theorem getD_filledLast {source : String} {closing : Pattern ρ}
    (hread : Pattern.read engine source = .ok closing) (text : Array Char) (found : Found) :
    (filledLast engine closing text found).getD closing =
      Pattern.filledBy engine closing.source text found := by
  unfold filledLast
  split
  · rw [Option.getD_some, Pattern.fill_eq]
  · rename_i hquotes
    rw [Option.getD_none, Pattern.filledBy_of_not_quotes hread (Bool.eq_false_iff.2 hquotes)]

/-- A step may enter a rule.  From then on until the frame of the rule is taken away, on the same
line and on all later ones, the frame is of this rule and has the same scopes, and just one pattern
is searched for as its end or its condition: the one that the rule has, filled by the match with
which it was entered. -/
theorem Loaded.entry_fixes_closing (hloaded : g.Loaded engine)
    (hstep : g.step engine scanner text s = .ok (.next s'))
    (hpush : s'.stack.frames = f :: s.stack.frames) :
    ∃ id found closing,
      g.next engine text s.point s.stack.top = .ok (some (.rule id, found)) ∧
      (g.rule id).closing? = some closing ∧
      ∀ m, g.Lives engine s.stack.depth (.scanning text s') m →
        ∃ inner f' outer, m.stack.frames = inner ++ f' :: outer ∧
          outer.length = s.stack.depth ∧
          f'.rule = id ∧ f'.matchScopes = f.matchScopes ∧ f'.bodyScopes = f.bodyScopes ∧
          ∀ searched, g.ClosingSearch f' searched ↔
            searched = Pattern.filledBy engine closing.source text found := by
  obtain ⟨id, found, closing, hnext, hclosing, rfl⟩ := (step_move hstep).eq_frameOf hpush
  refine ⟨id, found, closing, hnext, hclosing, ?_⟩
  intro m hlives
  generalize hf : g.frameOf engine text id closing found s = f at hpush
  have hborn : (f :: s.stack.frames).map Frame.forNextLine <:+
      (Moment.scanning text s').frames := by
    rw [← hpush]
    exact List.suffix_refl _
  obtain ⟨above, habove⟩ := hlives.keeps hborn (List.length_map _)
  -- The frame of the rule is found again, up to the positions of its line.
  obtain ⟨inner, kept, hframes, _, hkept⟩ := List.map_eq_append_iff.1 habove.symm
  obtain ⟨f', outer, rfl, hsame, houter⟩ := List.map_eq_cons_iff.1 hkept
  obtain ⟨hrule, hmatch, hbody, hfilled⟩ := Frame.eq_of_forNextLine_eq hsame
  subst hf
  have hclosing' : (g.rule f'.rule).closing? = some closing := hrule ▸ hclosing
  have hdepth : outer.length = s.stack.depth := by
    have hlength := congrArg List.length houter
    rwa [List.length_map, List.length_map] at hlength
  refine ⟨inner, f', outer, hframes, hdepth, hrule, hmatch, hbody, ?_⟩
  intro searched
  obtain ⟨lib, parts, hcompiled⟩ := hloaded.compiledFrom
  obtain ⟨source, hread⟩ := hcompiled.pattern_read (Or.inr hclosing)
  rw [closingSearch_iff hclosing', hfilled, ← getD_filledLast hread]
  rfl

end Grammar

/-! ## In the small grammar -/

namespace Sample

/-- A line that enters the region. -/
def openingLine : Array Char := #['a', '<', 'b', '\n']

/-- Where its scan starts when it is the first line. -/
def beginning : Scan (List Char) := ⟨⟨0, none, true⟩, Stack.root 0 "s", .none⟩

/-- Behind the step that enters the region. -/
def entered : Scan (List Char) :=
  ⟨⟨2, some 2, false⟩, opened, ⟨[⟨1, 2, ["s", "tag", "x", "cap", "lt"]⟩, ⟨0, 1, ["s"]⟩], 2⟩⟩

theorem beginning_enters :
    grammar.step .literal (grammar.scan .literal 1) openingLine beginning =
      .ok (.next entered) := by
  cbv

/-- The region is still open where the next line starts. -/
theorem entered_lives : grammar.Lives .literal 1 (.scanning openingLine entered)
    (.starting closingLine opened.forNextLine) := by
  have hhalt : grammar.step .literal (grammar.scan .literal 1) openingLine entered =
      .ok (.halt .noMatch ⟨entered.point, opened, ⟨[⟨2, 4, ["s", "tag", "x", "body"]⟩,
        ⟨1, 2, ["s", "tag", "x", "cap", "lt"]⟩, ⟨0, 1, ["s"]⟩], 4⟩⟩) := by
    cbv
  have hbehind : grammar.Lives .literal 1 (.scanning openingLine entered) (.between opened) :=
    .onward .born (.halt hhalt) (by decide)
  exact .onward hbehind .line (by decide)

end Sample

/-- The region of the small grammar, which is still open on the next line. -/
theorem Grammar.Loaded.sample_entry_fixes_closing :
    Sample.grammar.Loaded .literal ∧
    Sample.grammar.step .literal (Sample.grammar.scan .literal 1) Sample.openingLine
      Sample.beginning = .ok (.next Sample.entered) ∧
    Sample.entered.stack.frames = Sample.opened.top :: Sample.beginning.stack.frames ∧
    Sample.grammar.Lives .literal 1 (.scanning Sample.openingLine Sample.entered)
      (.starting Sample.closingLine Sample.opened.forNextLine) ∧
    ∃ id found closing,
      Sample.grammar.next .literal Sample.openingLine Sample.beginning.point
        Sample.beginning.stack.top = .ok (some (.rule id, found)) ∧
      (Sample.grammar.rule id).closing? = some closing ∧
      ∀ m, Sample.grammar.Lives .literal 1 (.scanning Sample.openingLine Sample.entered) m →
        ∃ inner f' outer, m.stack.frames = inner ++ f' :: outer ∧ outer.length = 1 ∧
          f'.rule = id ∧ f'.matchScopes = Sample.opened.top.matchScopes ∧
          f'.bodyScopes = Sample.opened.top.bodyScopes ∧
          ∀ searched, Sample.grammar.ClosingSearch f' searched ↔
            searched = Pattern.filledBy .literal closing.source Sample.openingLine found :=
  ⟨Sample.grammar_loaded, Sample.beginning_enters, rfl, Sample.entered_lives,
    Loaded.entry_fixes_closing Sample.grammar_loaded Sample.beginning_enters rfl⟩

end ScopeCheck
