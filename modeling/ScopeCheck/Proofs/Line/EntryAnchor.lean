import ScopeCheck.Proofs.Line.History
import ScopeCheck.Proofs.Line.Lifetime

/-!
# Where the end of an entry may be asked for

A search may allow patterns to ask for the place where the last begin or condition has ended.  The
scan point carries that place; it is put aside in the frame of a rule that is entered, comes back
when the rule is left, and is set anew where a line starts.

* `VisitsAfter.entryPlaces`: on a line the place is behind a begin or a condition that has matched
  on it, or it is the start of the line, carried over by the innermost open rule;
* `Progress` and `Grammar.Advances` follow a text step by step over its lines, and
  `heldOpen_of_tookLineEnd` finds the step by which a rule that carries the start of a line over has
  been entered;
* `Grammar.Run.entry_allowed` puts both together.  The rule may have been entered on any line
  before: `Grammar.entry_allowed_again` is a search two lines after the begin.
-/

namespace ScopeCheck

variable {ρ : Type} {engine : RegexEngine ρ} {g : Grammar ρ} {scanner : Scanner ρ}
  {line text : Array Char} {state : LineState ρ} {s s' : Scan ρ} {bound depth : Nat}
  {past : List Passage} {around : List Nat}

/-! ## On a line -/

/-- A condition or a begin has matched up to a position. -/
def EntersAt (past : List Passage) (pos : Nat) : Prop :=
  ∃ p ∈ past, (p.role = .goesOn ∨ p.role = .enters) ∧ p.span.stop = pos

/-- A position behind a condition or a begin, or the start of the line if it has been carried
over. -/
def EntryPlace (past : List Passage) (carried : Bool) (pos : Nat) : Prop :=
  EntersAt past pos ∨ pos = 0 ∧ carried = true

/-- What has happened before still has. -/
theorem EntryPlace.later {carried : Bool} {pos : Nat} (h : EntryPlace past carried pos)
    (p : Passage) : EntryPlace (past ++ [p]) carried pos := by
  rcases h with ⟨q, hq, hrole⟩ | hcarried
  · exact Or.inl ⟨q, List.mem_append_left _ hq, hrole⟩
  · exact Or.inr hcarried

/-- Behind a condition or a begin. -/
theorem EntryPlace.behind {carried : Bool} {p : Passage}
    (hrole : p.role = .goesOn ∨ p.role = .enters) :
    EntryPlace (past ++ [p]) carried p.span.stop :=
  Or.inl ⟨p, List.mem_append_right _ (List.mem_singleton_self p), hrole, rfl⟩

/-- The place to ask for, and those that come back when rules are left. -/
structure EntryPlaces (past : List Passage) (carried : Bool) (s : Scan ρ) : Prop where
  point : ∀ pos, s.point.anchor = some pos → EntryPlace past carried pos
  frames : ∀ f ∈ s.stack.frames, ∀ pos, f.anchor = some pos → EntryPlace past carried pos

theorem ScansGroupAt.entryPlaces {atTextStart carried : Bool} {found : Found}
    {captures : GroupRules} {inside : Array Char}
    (h : ScansGroupAt atTextStart found captures text inside s) : EntryPlaces past carried s := by
  obtain ⟨number, rule, container, span, _, _, _, _, base, before, rfl⟩ := h
  constructor
  · intro pos hpos
    cases hpos
  · intro f hf pos hpos
    obtain rfl := List.mem_singleton.1 hf
    cases hpos

namespace Grammar

/-- A line starts without places in its frames. -/
theorem lineStack_anchor {f : Frame ρ} (hf : f ∈ (g.lineStack state).frames) : f.anchor = none := by
  cases state with
  | initial =>
      obtain rfl := List.mem_singleton.1 hf
      rfl
  | inside stack =>
      obtain ⟨_, _, rfl⟩ := List.mem_map.1 (show f ∈ stack.frames.map Frame.forNextLine from hf)
      rfl

theorem Checking.entryPlace {inner : List (Frame ρ)} {point : ScanPoint}
    (h : g.Checking engine line state past inner point) :
    ∀ pos, point.anchor = some pos →
      EntryPlace past (g.lineStack state).top.tookLineEnd pos := by
  induction h with
  | start =>
      intro pos hpos
      -- Before any condition only the frame on top can give a place, that of the start.
      unfold startPoint at hpos
      split at hpos
      · rename_i htook
        exact Or.inr ⟨(Option.some.inj hpos).symm, htook⟩
      · cases hpos
  | skip _ _ ih => exact ih
  | goesOn =>
      intro pos hpos
      obtain rfl := Option.some.inj hpos
      exact .behind (Or.inl rfl)

/-- A step leaves the places that there were, and adds the end of a begin that matches. -/
theorem Move.entryPlaces {carried : Bool} {candidate : Candidate} {found : Found}
    (hmove : g.Move engine scanner text s (.next s'))
    (hnext : g.next engine text s.point s.stack.top = .ok (some (candidate, found)))
    (h : EntryPlaces past carried s) :
    EntryPlaces (past ++ [g.passageOf text s.stack candidate found]) carried s' := by
  have hpoint := fun pos hpos => (h.point pos hpos).later (g.passageOf text s.stack candidate found)
  have hframes := fun f hf pos hpos =>
    (h.frames f hf pos hpos).later (g.passageOf text s.stack candidate found)
  cases hmove with
  | leave hcover =>
      refine ⟨?_, fun f hf => hframes f ((pop_frames s.stack).subset hf)⟩
      intro pos hpos
      -- The place is that of the frame that is left, if it comes back, or it stays as it was.
      change (pointBehind s).anchor = some pos at hpos
      unfold pointBehind at hpos
      split at hpos
      · exact hframes s.stack.top List.mem_cons_self pos hpos
      · exact hpoint pos hpos
  | single => exact ⟨hpoint, hframes⟩
  | @enter id _ _ closing hclosing hcover =>
      obtain ⟨rfl, rfl⟩ := Prod.mk.inj (Option.some.inj (Except.ok.inj (hnext.symm.trans hcover.1)))
      constructor
      · intro pos hpos
        have hstop : (g.passageOf text s.stack (.rule id) found).span.stop = pos :=
          Option.some.inj hpos
        have hrole : (g.passageOf text s.stack (.rule id) found).role = .enters := by
          simp only [passageOf, hclosing, Option.isSome_some, if_pos]
        rw [← hstop]
        exact .behind (Or.inr hrole)
      · intro f hf
        rcases List.mem_cons.1 hf with rfl | hf
        · -- The new frame puts aside the place that was asked for so far.
          exact hpoint
        · exact hframes f hf

/-- The places are right wherever a line is scanned, or a captured text in it. -/
theorem VisitsAfter.entryPlaces
    (h : g.VisitsAfter engine bound line state past around depth text s) :
    EntryPlaces past (g.lineStack state).top.tookLineEnd s := by
  induction h with
  | line hstart =>
      obtain ⟨left, hchecking⟩ := lineStart_checking hstart
      refine ⟨hchecking.entryPlace, ?_⟩
      intro f hf pos hpos
      rw [lineStack_anchor ((lineStart_frames hstart).subset hf)] at hpos
      cases hpos
  | condition _ _ _ hgroup => exact hgroup.entryPlaces
  | next _ hnext hstep ih => exact (step_move hstep).entryPlaces hnext ih
  | inner _ _ hgroup => exact hgroup.entryPlaces

/-- Only where an entry has ended, or at the start of a line that it is carried over to, patterns
may ask for its end. -/
theorem Searches.entryPlace {pattern : Pattern ρ} {q : Query}
    (h : g.Searches engine bound line state past around pattern q)
    (hallowed : q.allowEntry = true) :
    EntryPlace past (g.lineStack state).top.tookLineEnd q.start := by
  cases h with
  | condition hchecking => exact hchecking.entryPlace _ (eq_of_beq hallowed)
  | candidate hvisits => exact hvisits.entryPlaces.point _ (eq_of_beq hallowed)

end Grammar

/-! ## Over the lines -/

/-- How far a text has been read. -/
inductive Progress (ρ : Type)
  /-- These lines have been read. -/
  | between (read : List String) (state : LineState ρ)
  /-- These lines have been read, and the next one is being scanned. -/
  | within (read : List String) (line : String) (s : Scan ρ)

namespace Progress

/-- The open rules.  Between two lines they are those with which the next line starts. -/
def stack (g : Grammar ρ) : Progress ρ → Stack ρ
  | between _ state => g.lineStack state
  | within _ _ s => s.stack

/-- The lines that have been read, the current one included. -/
def lines : Progress ρ → List String
  | between read _ => read
  | within read line _ => read ++ [line]

end Progress

namespace Grammar

/-- What comes next in the reading of a text. -/
inductive Advances (engine : RegexEngine ρ) (g : Grammar ρ) : Progress ρ → Progress ρ → Prop
  | start {read : List String} {state : LineState ρ} {line : String} {s : Scan ρ}
      (hstart : g.lineStart engine (g.scan engine (g.nestingBound (lineText line)))
        (lineText line) state = .ok s) :
      Advances engine g (.between read state) (.within read line s)
  | step {read : List String} {line : String} {depth : Nat} {s s' : Scan ρ}
      (hdepth : g.nestingBound (lineText line) = depth + 1)
      (hstep : g.step engine (g.scan engine depth) (lineText line) s = .ok (.next s')) :
      Advances engine g (.within read line s) (.within read line s')
  | finish {read : List String} {line : String} {depth : Nat} {reason : Halt} {s s' : Scan ρ}
      (hdepth : g.nestingBound (lineText line) = depth + 1)
      (hstep : g.step engine (g.scan engine depth) (lineText line) s = .ok (.halt reason s')) :
      Advances engine g (.within read line s) (.between (read ++ [line]) (.inside s'.stack))

/-- A text is read up to here. -/
def ReadsTo (engine : RegexEngine ρ) (g : Grammar ρ) (m : Progress ρ) : Prop :=
  Relation.ReflTransGen (g.Advances engine) (.between [] .initial) m

variable {read : List String} {m m' : Progress ρ}

/-- Every run of lines is read step by step. -/
theorem Run.readsTo (h : g.Run engine read state) : g.ReadsTo engine (.between read state) := by
  induction h with
  | start => exact .refl
  | @line read state line result _ hline ih =>
      obtain ⟨s, hscan, hresult, _⟩ := tokenize_eq_ok hline
      obtain ⟨start, hstart, hrun⟩ := scanLine_eq_ok hscan
      obtain ⟨depth, last, reason, hdepth, hsteps, hhalt⟩ := scan_eq_ok hrun
      have hfirst : g.Advances engine (.between read state) (.within read line start) :=
        .start hstart
      have hscanned := hsteps.lift (Progress.within read line) fun _ _ hstep =>
        Advances.step hdepth hstep
      rw [hresult]
      exact ((ih.tail hfirst).trans hscanned).tail (.finish hdepth hhalt)

/-- Lines are only added. -/
theorem Advances.lines_grow (h : g.Advances engine m m') : m.lines <+: m'.lines := by
  cases h with
  | start => exact List.prefix_append _ _
  | step => exact List.prefix_refl _
  | finish => exact List.prefix_refl _

/-- A scan does not end with entering a rule. -/
theorem Move.halt_frames {reason : Halt} (hmove : g.Move engine scanner text s (.halt reason s')) :
    s'.stack.frames <:+ s.stack.frames := by
  cases hmove with
  | noMatch => exact List.suffix_refl _
  | emptyRegion => exact List.suffix_refl _
  | emptyMatch => exact pop_frames s.stack
  | entered => exact List.suffix_refl _
  | container => exact List.suffix_refl _

/-- A frame was there before, up to the positions of its line, or it has just been put there. -/
theorem Advances.frame_cases (h : g.Advances engine m m') {f : Frame ρ} {outer : List (Frame ρ)}
    (hf : f :: outer <:+ (m'.stack g).frames) :
    (∃ f' outer', f' :: outer' <:+ (m.stack g).frames ∧ f'.tookLineEnd = f.tookLineEnd ∧
      outer'.length = outer.length) ∨
    ∃ read line depth s s', m = .within read line s ∧ m' = .within read line s' ∧
      g.nestingBound (lineText line) = depth + 1 ∧
      g.step engine (g.scan engine depth) (lineText line) s = .ok (.next s') ∧
      s'.stack.frames = f :: s.stack.frames ∧ outer = s.stack.frames := by
  cases h with
  | start hstart => exact Or.inl ⟨f, outer, hf.trans (lineStart_frames hstart), rfl, rfl⟩
  | @step read line depth s s' hdepth hstep =>
      rcases (step_move hstep).frames with hsuffix | ⟨top, hpush⟩
      · exact Or.inl ⟨f, outer, hf.trans hsuffix, rfl, rfl⟩
      · change f :: outer <:+ s'.stack.frames at hf
        change s'.stack.frames = top :: s.stack.frames at hpush
        rw [hpush, List.suffix_cons_iff] at hf
        rcases hf with heq | hbelow
        · obtain ⟨rfl, rfl⟩ := List.cons.inj heq
          exact Or.inr ⟨read, line, depth, s, s', rfl, rfl, hdepth, hstep, hpush, rfl⟩
        · exact Or.inl ⟨f, outer, hbelow, rfl, rfl⟩
  | @finish read line depth reason s s' hdepth hstep =>
      -- The start of the next line clears the positions of a frame; its flag stays.
      have hmapped : f :: outer <:+ s'.stack.frames.map Frame.forNextLine := hf
      obtain ⟨kept, hkept, heq⟩ := List.suffix_map_iff.1 hmapped
      obtain ⟨f', outer', rfl, rfl, rfl⟩ := List.map_eq_cons_iff.1 heq.symm
      exact Or.inl ⟨f', outer', hkept.trans (step_move hstep).halt_frames, rfl,
        (List.length_map _).symm⟩

/-- On a line a step enters a rule whose begin matches up to the end of the line, line feed
included. -/
def EntersToEnd (engine : RegexEngine ρ) (g : Grammar ρ) (line : String) (s s' : Scan ρ) : Prop :=
  ∃ depth id found closing, g.nestingBound (lineText line) = depth + 1 ∧
    g.step engine (g.scan engine depth) (lineText line) s = .ok (.next s') ∧
    g.next engine (lineText line) s.point s.stack.top = .ok (some (.rule id, found)) ∧
    (g.rule id).closing? = some closing ∧ found.whole.stop = (lineText line).size ∧
    s'.stack.depth = s.stack.depth + 1

/-- Above so many rules there is one that was entered by a begin that matched up to the end of
`opening`, the line behind `before`; it has not been left since. -/
def HeldOpen (engine : RegexEngine ρ) (g : Grammar ρ) (before : List String) (opening : String)
    (height : Nat) (m : Progress ρ) : Prop :=
  ∃ s s', g.ReadsTo engine (.within before opening s) ∧ g.EntersToEnd engine opening s s' ∧
    s.stack.depth = height ∧
    Relation.ReflTransGen (fun m m' => g.Advances engine m m' ∧ height < (m'.stack g).depth)
      (.within before opening s') m

/-- The line on which the rule was entered is one of those that have been read. -/
theorem HeldOpen.opening_read {before : List String} {opening : String} {height : Nat}
    (h : g.HeldOpen engine before opening height m) : before ++ [opening] <+: m.lines := by
  obtain ⟨s, s', _, _, _, hheld⟩ := h
  induction hheld with
  | refl => exact List.prefix_refl _
  | tail _ hadvances ih => exact ih.trans hadvances.1.lines_grow

/-- A frame that carries the start of a line over is that of a rule whose begin has matched up to
the end of its line.  The induction is on how the text has been read. -/
theorem heldOpen_of_tookLineEnd (h : g.ReadsTo engine m) {f : Frame ρ} {outer : List (Frame ρ)}
    (hf : f :: outer <:+ (m.stack g).frames) (htook : f.tookLineEnd = true) :
    ∃ before opening, g.HeldOpen engine before opening outer.length m := by
  induction h generalizing f outer with
  | refl =>
      -- The frame of the root is entered by no match.
      have hroot : f :: outer <:+ [(Stack.root g.root g.scopeName : Stack ρ).top] := hf
      obtain ⟨rfl, -⟩ := List.cons.inj (hroot.eq_of_length_le (Nat.succ_le_succ (Nat.zero_le _)))
      cases htook
  | @tail m m' hreads hadvances ih =>
      rcases hadvances.frame_cases hf with ⟨f', outer', hf', htook', hlength⟩ |
        ⟨read, line, depth, s, s', rfl, rfl, hdepth, hstep, hpush, rfl⟩
      · -- The frame was there before, so the rule is still open.
        obtain ⟨before, opening, s, s', hto, henters, hheight, hheld⟩ :=
          ih hf' (htook'.trans htook)
        refine ⟨before, opening, s, s', hto, henters, hheight.trans hlength, ?_⟩
        rw [← hlength]
        refine hheld.tail ⟨hadvances, ?_⟩
        rw [hlength]
        exact hf.length_le
      · obtain ⟨id, found, closing, hnext, hclosing, rfl⟩ := (step_move hstep).eq_frameOf hpush
        have hstop : found.whole.stop = (lineText line).size := of_decide_eq_true htook
        have hdeeper : s'.stack.depth = s.stack.depth + 1 := congrArg List.length hpush
        exact ⟨read, line, s, s', hreads,
          ⟨depth, id, found, closing, hdepth, hstep, hnext, hclosing, hstop, hdeeper⟩, rfl, .refl⟩

/-- Patterns may ask for the end of an entry only in a search that starts where a begin or a
condition has ended before on the same line, or at the start of a line if the innermost rule that
is open there was entered on a line before by a begin that matched up to its end, and has been open
ever since. -/
theorem Run.entry_allowed (hrun : g.Run engine read state) {pattern : Pattern ρ} {q : Query}
    (hsearch : g.Searches engine bound line state past around pattern q)
    (hallowed : q.allowEntry = true) :
    EntersAt past q.start ∨
    q.start = 0 ∧ ∃ before opening height, before ++ [opening] <+: read ∧
      (g.lineStack state).depth = height + 1 ∧
      g.HeldOpen engine before opening height (.between read state) := by
  rcases hsearch.entryPlace hallowed with henters | ⟨hstart, htook⟩
  · exact Or.inl henters
  · obtain ⟨before, opening, hheld⟩ := heldOpen_of_tookLineEnd hrun.readsTo
      (List.suffix_refl (g.lineStack state).frames) htook
    exact Or.inr ⟨hstart, before, opening, _, hheld.opening_read, rfl, hheld⟩

end Grammar

/-! ## Two lines after the begin -/

namespace Sample

/-- Its rule goes from `<` at the end of a line to `>`. -/
def lineEndDocument : Document :=
  let word : Entry := { Entry.blank with matchSource := some "x" }
  { Document.blank with patterns := [{ Entry.blank with
    beginSource := some "<\n"
    endSource := some ">"
    patterns := some [word] }] }

/-- The grammar that is read from the document. -/
def lineEndGrammar : Grammar (List Char) where
  scopeName := "s"
  rules := #[⟨none, none, .container [1]⟩,
    ⟨none, none, .region (pattern "<\n") [] (pattern ">") [] false [2]⟩,
    ⟨none, none, .single (pattern "x") []⟩]
  root := 0
  entries := #[[1], [2], []]

theorem lineEndGrammar_loaded : lineEndGrammar.Loaded .literal := by
  refine ⟨.ofDocuments [("s", lineEndDocument)], "s", ?_⟩
  cbv

/-- The stack behind the line `<`, with which the rule is entered. -/
def behindBegin : Stack (List Char) :=
  ⟨⟨1, some 0, none, true, ["s"], ["s"], none⟩, (Stack.root 0 "s").frames⟩

theorem lineEndGrammar_run :
    lineEndGrammar.Run .literal ["<", "x"] (.inside behindBegin.forNextLine) := by
  have hfirst : lineEndGrammar.tokenize .literal "<" .initial =
      .ok ⟨[⟨0, 1, ["s"]⟩], .inside behindBegin⟩ := by
    rfl
  have hsecond : lineEndGrammar.tokenize .literal "x" (.inside behindBegin) =
      .ok ⟨[⟨0, 1, ["s"]⟩], .inside behindBegin.forNextLine⟩ := by
    rfl
  exact .line (.line .start hfirst) hsecond

/-- The search for `x` at the start of the third line. -/
def thirdLineQuery : Query := ⟨lineText "x", 0, false, true⟩

theorem thirdLine_searches :
    lineEndGrammar.Searches .literal 1 (lineText "x") (.inside behindBegin.forNextLine) [] []
      (pattern "x") thirdLineQuery := by
  have hvisits : lineEndGrammar.VisitsAfter .literal 1 (lineText "x")
      (.inside behindBegin.forNextLine) [] [] 1 (lineText "x")
      ⟨⟨0, some 0, false⟩, behindBegin.forNextLine, .none⟩ :=
    .line rfl
  have hmem : (Candidate.rule 2, pattern "x") ∈
      lineEndGrammar.candidates behindBegin.forNextLine.top :=
    List.mem_cons_of_mem _ (List.mem_singleton_self _)
  exact .candidate hvisits hmem

/-- The only begin in the grammar. -/
theorem lineEndGrammar_begin {id : RuleIndex} {begins closing : Pattern (List Char)}
    (hbegins : (lineEndGrammar.rule id).entryPattern? = some begins)
    (hclosing : (lineEndGrammar.rule id).closing? = some closing) : begins = pattern "<\n" := by
  match id with
  | 0 => cases hclosing
  | 1 => exact (Option.some.inj hbegins).symm
  | 2 => cases hclosing
  | index + 3 => cases hclosing

/-- No rule is entered on the line `x`. -/
theorem not_entersToEnd {s s' : Scan (List Char)} :
    ¬ lineEndGrammar.EntersToEnd .literal "x" s s' := by
  rintro ⟨_, id, found, closing, _, _, hnext, hclosing, _⟩
  obtain ⟨begins, hmem, hsearch⟩ := Grammar.next_eq_some hnext
  obtain rfl := lineEndGrammar_begin (Grammar.mem_candidates_rule hmem).2 hclosing
  have hvariants : ∀ allowStart allowEntry,
      (pattern "<\n").variants.pick allowStart allowEntry = .ok ['<', '\n'] := by
    intro allowStart allowEntry
    cases allowStart <;> cases allowEntry <;> rfl
  -- The begin is nowhere in the line, wherever a search starts.
  have hnowhere : ∀ pos < 3, ['<', '\n'].isPrefixOf ((lineText "x").toList.drop pos) = false := by
    decide
  unfold Pattern.search at hsearch
  rw [hvariants] at hsearch
  split at hsearch
  · cases hsearch
  · obtain ⟨pos, hpos, _⟩ := Option.map_eq_some_iff.1 (Except.ok.inj hsearch)
    have hword := List.find?_some hpos
    rw [Bool.and_eq_true] at hword
    have hnone := hnowhere pos (List.mem_range.1 (List.mem_of_find?_eq_some hpos))
    exact Bool.false_ne_true (hnone.symm.trans hword.2)

end Sample

namespace Grammar

/-- In the small grammar, on the third line. -/
theorem Run.sample_entry_allowed :
    Sample.lineEndGrammar.Run .literal ["<", "x"] (.inside Sample.behindBegin.forNextLine) ∧
    Sample.lineEndGrammar.Searches .literal 1 (lineText "x")
      (.inside Sample.behindBegin.forNextLine) [] [] (Sample.pattern "x") Sample.thirdLineQuery ∧
    Sample.thirdLineQuery.allowEntry = true ∧
    (EntersAt [] Sample.thirdLineQuery.start ∨
    Sample.thirdLineQuery.start = 0 ∧ ∃ before opening height, before ++ [opening] <+: ["<", "x"] ∧
      (Sample.lineEndGrammar.lineStack (.inside Sample.behindBegin.forNextLine)).depth =
        height + 1 ∧
      Sample.lineEndGrammar.HeldOpen .literal before opening height
        (.between ["<", "x"] (.inside Sample.behindBegin.forNextLine))) :=
  ⟨Sample.lineEndGrammar_run, Sample.thirdLine_searches, rfl,
    Run.entry_allowed Sample.lineEndGrammar_run Sample.thirdLine_searches rfl⟩

/-- On the third line patterns may ask for the end of the begin of the first one: nothing has
matched on the third line before, and no rule was entered on the second one. -/
theorem entry_allowed_again :
    Sample.lineEndGrammar.Loaded .literal ∧
    Sample.lineEndGrammar.Run .literal ["<", "x"] (.inside Sample.behindBegin.forNextLine) ∧
    ∃ past around pattern q,
      Sample.lineEndGrammar.Searches .literal 1 (lineText "x")
        (.inside Sample.behindBegin.forNextLine) past around pattern q ∧
      q.allowEntry = true ∧
      ¬ (EntersAt past q.start ∨
        q.start = 0 ∧ ∃ before opening height, before ++ [opening] = ["<", "x"] ∧
          (Sample.lineEndGrammar.lineStack (.inside Sample.behindBegin.forNextLine)).depth =
            height + 1 ∧
          Sample.lineEndGrammar.HeldOpen .literal before opening height
            (.between ["<", "x"] (.inside Sample.behindBegin.forNextLine))) := by
  refine ⟨Sample.lineEndGrammar_loaded, Sample.lineEndGrammar_run, [], [], _, _,
    Sample.thirdLine_searches, rfl, ?_⟩
  rintro (⟨p, hp, _⟩ | ⟨_, before, opening, height, hlines, _, s, s', _, henters, _⟩)
  · cases hp
  · have hlast : before ++ [opening] = ["<"] ++ ["x"] := hlines
    obtain rfl := List.singleton_inj.1 (List.append_inj' hlast rfl).2
    exact Sample.not_entersToEnd henters

end Grammar

end ScopeCheck
