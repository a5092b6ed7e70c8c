import ScopeCheck.Proofs.Line.EntryAnchor

/-!
# A begin without an end

A region without an end gets a pattern for one that looks for a character which is taken never to
occur in a text.  Its frame is put on the stack when its begin matches, and then it stays.

* `Frame.StaysOpen` are the frames of such regions; `Grammar.CompiledFrom.staysOpen` says that every
  entry with a begin and without an end or a condition leads to one;
* `Progress.Holds`: frames lie at the bottom of the stack, up to the positions of their line;
* `Grammar.TakesAway` are the two ways in which such a frame is meant to go: the condition of a rule
  around it lapses, or a rule inside it matches the empty text;
* `Grammar.FindsEnd` is the way in which it is not: the line has the character after all;
* `Grammar.Advances.holds_or_removes` says of one step that there are no others, and
  `Grammar.CompiledFrom.open_end_holds` says it of all that is read later, over any number of lines.

In `Grammar.open_end_lost` a region ends, in the third way, on the line on which it begins.
-/

namespace ScopeCheck

variable {ρ : Type} {engine : RegexEngine ρ} {g : Grammar ρ} {scanner : Scanner ρ} {lib : Library}
  {parts : List Part} {text : Array Char} {s s' : Scan ρ} {f : Frame ρ} {outer : List (Frame ρ)}

/-- The character that never occurs is found only where it stands. -/
def RegexEngine.FindsUnmatchable (engine : RegexEngine ρ) : Prop :=
  ∀ regex text start found,
    engine.compile (String.singleton Anchors.unmatchable) = .ok regex →
    engine.search regex text start = some found →
    text[found.whole.start]? = some Anchors.unmatchable

namespace Pattern

/-- The pattern that never matches quotes nothing. -/
theorem quotesBegin_impossible : (impossible engine).quotesBegin = false := by
  rw [quotesBegin, impossible, source_ofSource]
  decide

/-- All variants of the pattern that never matches are the same. -/
theorem pick_impossible (allowStart allowEntry : Bool) :
    (impossible engine).variants.pick allowStart allowEntry =
      engine.compile (String.singleton Anchors.unmatchable) := by
  have hplain : Anchors.occur (String.singleton Anchors.unmatchable).toList = false := by decide
  rw [impossible, pick_ofSource, Anchors.restrict_of_not_occur hplain, String.ofList_toList]

/-- Where the pattern that never matches does match, the text has the character. -/
theorem search_impossible (hengine : engine.FindsUnmatchable) {q : Query} {found : Found}
    (h : (impossible engine).search engine q = .ok (some found)) :
    q.text[found.whole.start]? = some Anchors.unmatchable := by
  rw [search, pick_impossible] at h
  split at h
  · cases h
  · split at h
    · rename_i regex hregex
      exact hengine regex q.text q.start found hregex (Except.ok.inj h)
    · cases h

end Pattern

/-! ## Regions without an end -/

/-- The frame of a region whose end never matches. -/
def Frame.StaysOpen (engine : RegexEngine ρ) (g : Grammar ρ) (f : Frame ρ) : Prop :=
  f.filledLast = none ∧ ∃ first firstCaptures captures lastIsTriedLast patterns,
    (g.rule f.rule).form =
      .region first firstCaptures (Pattern.impossible engine) captures lastIsTriedLast patterns

namespace Frame.StaysOpen

/-- The positions of its line do not matter. -/
theorem of_forNextLine_eq {f' : Frame ρ} (h : f.StaysOpen engine g)
    (hsame : f'.forNextLine = f.forNextLine) : f'.StaysOpen engine g := by
  obtain ⟨hrule, _, _, hfilled⟩ := Frame.eq_of_forNextLine_eq hsame
  rw [StaysOpen, hrule, hfilled]
  exact h

/-- It goes on at the next line whatever stands there. -/
theorem condition?_eq_none (h : f.StaysOpen engine g) : g.condition? f = none := by
  obtain ⟨_, _, _, _, _, _, hform⟩ := h
  rw [Grammar.condition?, hform]

/-- Where its end matches, the text has the character that never occurs. -/
theorem unmatchable_of_last (hengine : engine.FindsUnmatchable) (h : f.StaysOpen engine g)
    {point : ScanPoint} {found : Found}
    (hnext : g.next engine text point f = .ok (some (.last, found))) :
    text[found.whole.start]? = some Anchors.unmatchable := by
  obtain ⟨hfilled, _, _, _, _, _, hform⟩ := h
  obtain ⟨pattern, hmem, hsearch⟩ := Grammar.next_eq_some hnext
  rcases Grammar.mem_candidates hmem with ⟨_, _, hrule, _⟩ | ⟨_, closing, hclosing, rfl⟩
  · cases hrule
  · rw [Rule.closing?, hform] at hclosing
    obtain rfl := Option.some.inj hclosing
    rw [hfilled, Option.getD_none] at hsearch
    exact Pattern.search_impossible hengine hsearch

end Frame.StaysOpen

/-- The region of an entry with a begin and without an end or a condition has an end that never
matches. -/
theorem Grammar.CompiledFrom.form_of_open_end (hcompiled : g.CompiledFrom engine lib parts)
    {id : RuleIndex} {path : List Step} {e : Entry} {around : Surroundings} {closing : Pattern ρ}
    (hpart : parts[id]? = some (.entry path e around)) (hend : e.endSource = none)
    (hwhile : e.whileSource = none) (hclosing : (g.rule id).closing? = some closing) :
    closing = Pattern.impossible engine ∧ ∃ first firstCaptures captures lastIsTriedLast patterns,
      (g.rule id).form =
        .region first firstCaptures (Pattern.impossible engine) captures lastIsTriedLast
          patterns := by
  have hform := Part.rule_form (hcompiled.rule hpart)
  cases hshape : e.shape with
  | single source =>
      simp only [hshape] at hform
      obtain ⟨_, _, hform⟩ := hform
      rw [Rule.closing?, hform] at hclosing
      cases hclosing
  | container =>
      simp only [hshape] at hform
      rw [Rule.closing?, hform] at hclosing
      cases hclosing
  | during first condition =>
      -- Only an entry with a condition has this shape.
      simp only [Entry.shape, hwhile] at hshape
      split at hshape <;> simp_all
  | region first last =>
      have hlast : last = String.singleton Anchors.unmatchable := by
        simp only [Entry.shape, hwhile, hend, Option.getD_none] at hshape
        split at hshape <;> simp_all
      simp only [hshape] at hform
      obtain ⟨begins, ends, _, hends, hform⟩ := hform
      obtain ⟨rfl, _⟩ := Pattern.read_eq_ok hends
      rw [hlast] at hform
      rw [Rule.closing?, hform] at hclosing
      exact ⟨(Option.some.inj hclosing).symm, _, _, _, _, _, hform⟩

/-- A frame that is put on the stack for an entry without an end stays open. -/
theorem Grammar.CompiledFrom.staysOpen (hcompiled : g.CompiledFrom engine lib parts)
    {path : List Step} {e : Entry} {around : Surroundings}
    (hstep : g.step engine scanner text s = .ok (.next s'))
    (hpush : s'.stack.frames = f :: s.stack.frames)
    (hpart : parts[f.rule]? = some (.entry path e around)) (hend : e.endSource = none)
    (hwhile : e.whileSource = none) : f.StaysOpen engine g := by
  obtain ⟨id, found, closing, _, hclosing, rfl⟩ := (step_move hstep).eq_frameOf hpush
  obtain ⟨rfl, hform⟩ := hcompiled.form_of_open_end hpart hend hwhile hclosing
  refine ⟨?_, hform⟩
  show filledLast engine (Pattern.impossible engine) text found = none
  rw [filledLast, Pattern.quotesBegin_impossible, if_neg Bool.false_ne_true]

/-! ## What takes a frame away -/

namespace Progress

/-- These frames lie at the bottom of the stack, up to the positions of their line. -/
def Holds (g : Grammar ρ) (frames : List (Frame ρ)) (m : Progress ρ) : Prop :=
  frames.map Frame.forNextLine <:+ (m.stack g).frames.map Frame.forNextLine

/-- These frames are the whole stack, up to the positions of their line. -/
def IsAt (g : Grammar ρ) (frames : List (Frame ρ)) (m : Progress ρ) : Prop :=
  (m.stack g).frames.map Frame.forNextLine = frames.map Frame.forNextLine

end Progress

namespace Grammar

/-- The ways in which the frame of a region without an end is meant to be removed from the frames
around it. -/
inductive TakesAway (engine : RegexEngine ρ) (g : Grammar ρ) (f : Frame ρ)
    (outer : List (Frame ρ)) : Progress ρ → Progress ρ → Prop
  /-- Where a line starts, the condition of a rule around it does not match. -/
  | lapse {read : List String} {line : String} {state : LineState ρ} {s : Scan ρ}
      {frame : Frame ρ} (hframe : frame ∈ outer)
      (hlapses : g.Lapses engine (lineText line) frame s.point) :
      TakesAway engine g f outer (.between read state) (.within read line s)
  /-- The frame is the innermost one, and a rule matches the empty text at the point of the scan,
  which is given up with that. -/
  | giveUp {read : List String} {line : String} {s : Scan ρ} {id : RuleIndex} {found : Found}
      {pattern : Pattern ρ} {captures : GroupRules}
      (htop : Progress.IsAt g (f :: outer) (.within read line s))
      (hform : (g.rule id).form = .single pattern captures)
      (hnext : g.next engine (lineText line) s.point s.stack.top = .ok (some (.rule id, found)))
      (hempty : found.whole = ⟨s.point.pos, s.point.pos⟩) :
      TakesAway engine g f outer (.within read line s)
        (.between (read ++ [line]) (.inside s.stack.pop))

/-- The frame of a region without an end is the innermost one, and its end matches the character
that is taken never to occur. -/
inductive FindsEnd (engine : RegexEngine ρ) (g : Grammar ρ) (f : Frame ρ)
    (outer : List (Frame ρ)) : Progress ρ → Progress ρ → Prop
  | unmatchable {read : List String} {line : String} {s s' : Scan ρ} {found : Found}
      (htop : Progress.IsAt g (f :: outer) (.within read line s))
      (hnext : g.next engine (lineText line) s.point s.stack.top = .ok (some (.last, found)))
      (hchar : (lineText line)[found.whole.start]? = some Anchors.unmatchable)
      (hleft : s'.stack = s.stack.pop) :
      FindsEnd engine g f outer (.within read line s) (.within read line s')

/-- The frame of a region without an end is removed from the frames around it. -/
def Removes (engine : RegexEngine ρ) (g : Grammar ρ) (f : Frame ρ) (outer : List (Frame ρ))
    (m m' : Progress ρ) : Prop :=
  g.TakesAway engine f outer m m' ∨ g.FindsEnd engine f outer m m'

variable {m m' : Progress ρ}

/-- What is at the bottom is still there when the innermost rule is left, or it was all that there
was. -/
theorem holds_pop {frames : List (Frame ρ)} {stack : Stack ρ}
    (h : frames.map Frame.forNextLine <:+ stack.frames.map Frame.forNextLine) :
    frames.map Frame.forNextLine <:+ stack.pop.frames.map Frame.forNextLine ∨
      stack.frames.map Frame.forNextLine = frames.map Frame.forNextLine := by
  obtain ⟨top, below⟩ := stack
  cases below with
  | nil => exact Or.inl h
  | cons next below =>
      rcases List.suffix_cons_iff.1 h with heq | hbelow
      · exact Or.inr heq.symm
      · exact Or.inl hbelow

/-- The positions of its line do not matter for the condition of a frame. -/
theorem Lapses.of_forNextLine_eq {f' : Frame ρ} {point : ScanPoint}
    (h : g.Lapses engine text f point) (hsame : f'.forNextLine = f.forNextLine) :
    g.Lapses engine text f' point := by
  obtain ⟨hrule, _, _, hfilled⟩ := Frame.eq_of_forNextLine_eq hsame
  have hcondition : g.condition? f' = g.condition? f := by
    unfold condition?
    rw [hrule, hfilled]
  rw [Lapses, hcondition]
  exact h

/-- Where a line starts, a frame that stays open is only removed together with one around it, whose
condition does not match. -/
theorem lineStart_holds_or_lapse {state : LineState ρ} (hopen : f.StaysOpen engine g)
    (hstart : g.lineStart engine scanner text state = .ok s)
    (hholds : (f :: outer).map Frame.forNextLine <:+
      (g.lineStack state).frames.map Frame.forNextLine) :
    (f :: outer).map Frame.forNextLine <:+ s.stack.frames.map Frame.forNextLine ∨
      ∃ frame ∈ outer, g.Lapses engine text frame s.point := by
  obtain ⟨passed, _, left, hinside, _, hstack, hlapses⟩ := checkConditions_eq_ok hstart
  obtain ⟨kept, hkept, hsame⟩ := List.suffix_map_iff.1 hholds
  obtain ⟨f', outer', rfl, hf, houter⟩ := List.map_eq_cons_iff.1 hsame.symm
  have hframes : (g.lineStack state).frames = left.reverse ++ passed.reverse := by
    rw [← List.reverse_append, ← hinside, List.reverse_reverse]
  rw [List.append_nil] at hstack
  rw [hframes] at hkept
  rcases Nat.lt_or_ge outer'.length passed.length with hdeep | hshallow
  · -- The frame is among those that have been passed.
    left
    have hpassed : f' :: outer' <:+ passed.reverse := by
      refine List.suffix_of_suffix_length_le hkept (List.suffix_append _ _) ?_
      rw [List.length_reverse]
      exact hdeep
    have hgoesOn : s.stack.frames = passed.reverse := by
      cases hreversed : passed.reverse with
      | nil => rw [hreversed] at hpassed; cases List.suffix_nil.1 hpassed
      | cons top below => rw [hstack, hreversed]; rfl
    rw [hgoesOn, hsame]
    exact hpassed.map Frame.forNextLine
  · cases left with
    | nil =>
        have hle := hkept.length_le
        rw [List.reverse_nil, List.nil_append, List.length_reverse, List.length_cons] at hle
        omega
    | cons frame rest =>
        have hfirst := hlapses frame rfl
        have hlapsed : frame :: passed.reverse <:+ f' :: outer' := by
          refine List.suffix_of_suffix_length_le ?_ hkept ?_
          · rw [List.reverse_cons, List.append_assoc, List.singleton_append]
            exact List.suffix_append _ _
          · rw [List.length_cons, List.length_cons, List.length_reverse]
            omega
        rcases List.suffix_cons_iff.1 hlapsed with heq | hbelow
        · -- Its own condition does not lapse, as it has none.
          obtain ⟨rfl, _⟩ := List.cons.inj heq
          obtain ⟨pattern, captures, hcondition, _⟩ := hfirst
          rw [(hopen.of_forNextLine_eq hf).condition?_eq_none] at hcondition
          cases hcondition
        · have hmem : frame.forNextLine ∈ outer.map Frame.forNextLine :=
            houter ▸ List.mem_map_of_mem (hbelow.subset List.mem_cons_self)
          obtain ⟨around, haround, hsame'⟩ := List.mem_map.1 hmem
          exact Or.inr ⟨around, haround, hfirst.of_forNextLine_eq hsame'⟩

/-- One step of the reading of a text leaves the frame of a region without an end where it is, or
removes it in one of these ways. -/
theorem Advances.holds_or_removes (hsearches : engine.SearchesForward)
    (hengine : engine.FindsUnmatchable) (hopen : f.StaysOpen engine g)
    (h : g.Advances engine m m') (hholds : m.Holds g (f :: outer)) :
    m'.Holds g (f :: outer) ∨ g.Removes engine f outer m m' := by
  cases h with
  | start hstart =>
      rcases lineStart_holds_or_lapse hopen hstart hholds with hkept | ⟨frame, hframe, hlapses⟩
      · exact Or.inl hkept
      · exact Or.inr (Or.inl (.lapse hframe hlapses))
  | @step read line depth s s' hdepth hstep =>
      have hmove := step_move hstep
      cases hmove with
      | single => exact Or.inl hholds
      | enter => exact Or.inl (hholds.trans (List.suffix_cons _ _))
      | @leave found out hcover _ =>
          rcases holds_pop hholds with hkept | htop
          · exact Or.inl hkept
          · have hinnermost : s.stack.top.StaysOpen engine g :=
              hopen.of_forNextLine_eq (List.cons.inj htop).1
            exact Or.inr (Or.inr (.unmatchable htop hcover.1
              (hinnermost.unmatchable_of_last hengine hcover.1) rfl))
  | @finish read line depth reason s s' hdepth hstep =>
      have hclear : ∀ {stack : Stack ρ},
          (f :: outer).map Frame.forNextLine <:+ stack.frames.map Frame.forNextLine →
            (Progress.between (read ++ [line]) (.inside stack)).Holds g (f :: outer) := by
        intro stack hstack
        show _ <:+ (stack.frames.map Frame.forNextLine).map Frame.forNextLine
        rw [forNextLine_map_forNextLine]
        exact hstack
      have hmove := step_move hstep
      cases hmove with
      | noMatch => exact Or.inl (hclear hholds)
      | emptyRegion => exact Or.inl (hclear hholds)
      | entered => exact Or.inl (hclear hholds)
      | container => exact Or.inl (hclear hholds)
      | @emptyMatch id found out pattern captures hform hcover hguard =>
          rcases holds_pop hholds with hkept | htop
          · exact Or.inl (hclear hkept)
          · -- A match that starts at the point or behind it, and ends there, is empty.
            have hempty : found.whole = ⟨s.point.pos, s.point.pos⟩ := by
              have hahead := next_ahead hsearches hcover.1
              have hstart := Nat.le_antisymm (Nat.le_trans hahead.start_le hguard) hahead.pos_le
              have hstop := Nat.le_antisymm hguard (hahead.pos_le.trans hahead.start_le)
              cases hwhole : found.whole
              simp_all
            exact Or.inr (Or.inl (.giveUp htop hform hcover.1 hempty))

/-- A region without an end is entered by a step of the scan of a line.  Wherever the reading of the
text has got to later, on the same line or on any line behind it, the frame of the region lies on
the same frames as when it was put there, or a step in between has removed it in one of these
ways. -/
theorem CompiledFrom.open_end_holds (hsearches : engine.SearchesForward)
    (hengine : engine.FindsUnmatchable) (hcompiled : g.CompiledFrom engine lib parts)
    {read : List String} {line : String} {path : List Step} {e : Entry} {around : Surroundings}
    (henters : g.Advances engine (.within read line s) (.within read line s'))
    (hpush : s'.stack.frames = f :: s.stack.frames)
    (hpart : parts[f.rule]? = some (.entry path e around)) (hend : e.endSource = none)
    (hwhile : e.whileSource = none)
    (hlater : Relation.ReflTransGen (g.Advances engine) (.within read line s') m) :
    m.Holds g (f :: s.stack.frames) ∨
      ∃ n n', Relation.ReflTransGen (g.Advances engine) (.within read line s') n ∧
        g.Advances engine n n' ∧ g.Removes engine f s.stack.frames n n' ∧
        Relation.ReflTransGen (g.Advances engine) n' m := by
  have hopen : f.StaysOpen engine g := by
    cases henters with
    | step _ hstep => exact hcompiled.staysOpen hstep hpush hpart hend hwhile
  induction hlater with
  | refl =>
      have hframes : s'.stack.frames.map Frame.forNextLine =
          (f :: s.stack.frames).map Frame.forNextLine := congrArg _ hpush
      exact Or.inl ⟨[], hframes.symm⟩
  | @tail m m' hreads hadvances ih =>
      rcases ih with hholds | ⟨n, n', hto, hstep, hremoves, hfrom⟩
      · rcases hadvances.holds_or_removes hsearches hengine hopen hholds with hkept | hremoves
        · exact Or.inl hkept
        · exact Or.inr ⟨m, m', hreads, hadvances, hremoves, .refl⟩
      · exact Or.inr ⟨n, n', hto, hstep, hremoves, hfrom.tail hadvances⟩

end Grammar

/-! ## A region that is lost -/

theorem RegexEngine.literal_findsUnmatchable : RegexEngine.literal.FindsUnmatchable := by
  intro word text start found hword hfound
  obtain rfl := Except.ok.inj hword
  obtain ⟨pos, hpos, rfl⟩ := Option.map_eq_some_iff.1 hfound
  have hprefix := List.find?_some hpos
  simp only [Bool.and_eq_true, decide_eq_true_eq, List.isPrefixOf_iff_prefix] at hprefix
  obtain ⟨rest, hrest⟩ := hprefix.2
  have hhead : (text.toList.drop pos)[0]? = some Anchors.unmatchable := by
    rw [← hrest]
    rfl
  rw [List.getElem?_drop, Nat.add_zero, Array.getElem?_toList] at hhead
  exact hhead

namespace Sample

/-- Its region begins with `a` and has no end. -/
def openEntry : Entry := { Entry.blank with beginSource := some "a", name := some "r" }

/-- The document with this region. -/
def openDocument : Document := { Document.blank with patterns := [openEntry] }

/-- The library of this document. -/
def openLibrary : Library := ⟨[("s", openDocument)], "s"⟩

/-- The region as a part. -/
def openPart : Part := .entry [.pattern 0] openEntry (openDocument.surroundings "s")

/-- What is compiled of the library. -/
def openParts : List Part := [.root "s" openDocument, openPart]

/-- The grammar of a region from `a` to an end. -/
def regionGrammar (last : Pattern (List Char)) : Grammar (List Char) where
  scopeName := "s"
  rules := #[⟨none, none, .container [1]⟩,
    ⟨some ⟨"r"⟩, none, .region (pattern "a") [] last [] false []⟩]
  root := 0
  entries := #[[1], []]

/-- The grammar that is compiled. -/
def openGrammar : Grammar (List Char) := regionGrammar (.impossible .literal)

theorem regionGrammar_eq (last : Pattern (List Char)) :
    regionGrammar last = .ofRules "s" (regionGrammar last).rules 0 := by
  cbv

theorem openGrammar_compiledFrom :
    openGrammar.CompiledFrom .literal openLibrary openParts := by
  have hkeys : openLibrary.keys = .root "s" :: .entry ⟨"s", [.pattern 0]⟩ ::
      [CaptureMap.whole, .first, .last, .condition].map (.contents · ⟨"s", [.pattern 0]⟩) := by
    cbv
  have hroot : (Part.root "s" openDocument).tasks openLibrary = [.visit openPart] := rfl
  have hrootKey : (Part.root "s" openDocument).key = .root "s" := rfl
  have hpart : openPart.tasks openLibrary =
      [.check "a", .check (String.singleton Anchors.unmatchable)] := rfl
  have hpartKey : openPart.key = .entry ⟨"s", [.pattern 0]⟩ := rfl
  have hfirst : Pattern.read .literal "a" = .ok (pattern "a") := rfl
  have hlast : Pattern.read .literal (String.singleton Anchors.unmatchable) =
      .ok (.impossible .literal) := rfl
  refine ⟨⟨.root "s" openDocument, rfl, ?_⟩, _, rfl, regionGrammar_eq _⟩
  simp [visitParts, hkeys, hroot, hrootKey, hpart, hpartKey, hfirst, hlast, openParts, Except.map]

theorem openGrammar_loaded : openGrammar.Loaded .literal := by
  refine ⟨.ofDocuments [("s", openDocument)], "s", ?_⟩
  have hgathered : ((GrammarProvider.ofDocuments [("s", openDocument)]).gatherFrom "s").result =
      .ok openLibrary.documents := by
    cbv
  rw [GrammarProvider.compileFor, hgathered]
  exact congrArg (Except.mapError GrammarError.pattern) openGrammar_compiledFrom.compile_eq

/-- Where the scan of a first line starts. -/
def openStart : Scan (List Char) := ⟨⟨0, none, true⟩, Stack.root 0 "s", .none⟩

/-- The frame of the region. -/
def openFrame : Frame (List Char) := ⟨1, some 0, none, false, ["s", "r"], ["s", "r"], none⟩

/-- Behind the step that enters the region at the start of a line. -/
def openEntered : Scan (List Char) :=
  ⟨⟨1, some 1, false⟩, openStart.stack.push openFrame, ⟨[⟨0, 1, ["s", "r"]⟩], 1⟩⟩

/-- A line with the character that never occurs behind the begin of the region. -/
def lostLine : String := "a\uFFFFb"

/-- Behind the step that finds an end on that line. -/
def lostScan : Scan (List Char) :=
  ⟨⟨2, none, false⟩, openStart.stack, ⟨[⟨1, 2, ["s", "r"]⟩, ⟨0, 1, ["s", "r"]⟩], 2⟩⟩

/-- Both lines enter the region. -/
theorem openStart_advances {line : String} (hline : line = "ab" ∨ line = lostLine) :
    openGrammar.Advances .literal (.within [] line openStart) (.within [] line openEntered) := by
  rcases hline with rfl | rfl
  · exact .step rfl rfl
  · exact .step rfl rfl

end Sample

namespace Grammar

/-- The region is still open behind the line `ab`. -/
theorem CompiledFrom.sample_open_end_holds :
    RegexEngine.literal.SearchesForward ∧ RegexEngine.literal.FindsUnmatchable ∧
    Sample.openGrammar.CompiledFrom .literal Sample.openLibrary Sample.openParts ∧
    Sample.openGrammar.Advances .literal (.within [] "ab" Sample.openStart)
      (.within [] "ab" Sample.openEntered) ∧
    Sample.openEntered.stack.frames = Sample.openFrame :: Sample.openStart.stack.frames ∧
    Sample.openParts[Sample.openFrame.rule]? = some Sample.openPart ∧
    Sample.openEntry.endSource = none ∧ Sample.openEntry.whileSource = none ∧
    Relation.ReflTransGen (Sample.openGrammar.Advances .literal)
      (.within [] "ab" Sample.openEntered) (.between ["ab"] (.inside Sample.openEntered.stack)) ∧
    ((Progress.between ["ab"] (.inside Sample.openEntered.stack)).Holds Sample.openGrammar
        (Sample.openFrame :: Sample.openStart.stack.frames) ∨
      ∃ n n', Relation.ReflTransGen (Sample.openGrammar.Advances .literal)
          (.within [] "ab" Sample.openEntered) n ∧
        Sample.openGrammar.Advances .literal n n' ∧
        Sample.openGrammar.Removes .literal Sample.openFrame Sample.openStart.stack.frames n n' ∧
        Relation.ReflTransGen (Sample.openGrammar.Advances .literal) n'
          (.between ["ab"] (.inside Sample.openEntered.stack))) := by
  have henters := Sample.openStart_advances (Or.inl rfl)
  have hhalt : Sample.openGrammar.step .literal (Sample.openGrammar.scan .literal 96)
      (lineText "ab") Sample.openEntered =
        .ok (.halt .noMatch (Sample.openEntered.upTo ["s", "r"] 3)) := rfl
  have hfinish : Sample.openGrammar.Advances .literal (.within [] "ab" Sample.openEntered)
      (.between ["ab"] (.inside (Sample.openEntered.upTo ["s", "r"] 3).stack)) :=
    .finish rfl hhalt
  exact ⟨RegexEngine.literal_staysInside.searchesForward, RegexEngine.literal_findsUnmatchable,
    Sample.openGrammar_compiledFrom, henters, rfl, rfl, rfl, rfl, .single hfinish,
    CompiledFrom.open_end_holds RegexEngine.literal_staysInside.searchesForward
      RegexEngine.literal_findsUnmatchable Sample.openGrammar_compiledFrom henters rfl
      (show Sample.openParts[Sample.openFrame.rule]? = some (.entry _ _ _) from rfl) rfl rfl
      (.single hfinish)⟩

/-- On the line `lostLine` the region is over behind its second character, though no condition
lapses and nothing matches the empty text. -/
theorem open_end_lost :
    Sample.openGrammar.Loaded .literal ∧
    Sample.openGrammar.CompiledFrom .literal Sample.openLibrary Sample.openParts ∧
    Sample.openGrammar.Advances .literal (.within [] Sample.lostLine Sample.openStart)
      (.within [] Sample.lostLine Sample.openEntered) ∧
    Sample.openEntered.stack.frames = Sample.openFrame :: Sample.openStart.stack.frames ∧
    Sample.openParts[Sample.openFrame.rule]? = some Sample.openPart ∧
    Sample.openEntry.endSource = none ∧ Sample.openEntry.whileSource = none ∧
    ∃ m, Relation.ReflTransGen (Sample.openGrammar.Advances .literal)
        (.within [] Sample.lostLine Sample.openEntered) m ∧
      m.lines = [Sample.lostLine] ∧
      ¬ (m.Holds Sample.openGrammar (Sample.openFrame :: Sample.openStart.stack.frames) ∨
        ∃ n n', Relation.ReflTransGen (Sample.openGrammar.Advances .literal)
            (.within [] Sample.lostLine Sample.openEntered) n ∧
          Sample.openGrammar.Advances .literal n n' ∧
          Sample.openGrammar.TakesAway .literal Sample.openFrame Sample.openStart.stack.frames
            n n' ∧
          Relation.ReflTransGen (Sample.openGrammar.Advances .literal) n' m) := by
  refine ⟨Sample.openGrammar_loaded, Sample.openGrammar_compiledFrom,
    Sample.openStart_advances (Or.inr rfl), rfl, rfl, rfl, rfl,
    .between [Sample.lostLine] (.inside Sample.openStart.stack), ?_, rfl, ?_⟩
  · have hleaves : Sample.openGrammar.Advances .literal
        (.within [] Sample.lostLine Sample.openEntered)
        (.within [] Sample.lostLine Sample.lostScan) := .step rfl rfl
    have hhalt : Sample.openGrammar.step .literal (Sample.openGrammar.scan .literal 150)
        (lineText Sample.lostLine) Sample.lostScan =
          .ok (.halt .noMatch (Sample.lostScan.upTo ["s"] 4)) := rfl
    have hfinish : Sample.openGrammar.Advances .literal
        (.within [] Sample.lostLine Sample.lostScan)
        (.between [Sample.lostLine] (.inside (Sample.lostScan.upTo ["s"] 4).stack)) :=
      .finish rfl hhalt
    exact .tail (.single hleaves) hfinish
  · rintro (hholds | ⟨n, n', _, _, htakes, _⟩)
    · exact absurd hholds.length_le (by decide)
    · cases htakes with
      | lapse hframe hlapses =>
          obtain rfl := List.mem_singleton.1 hframe
          obtain ⟨_, _, hcondition, _⟩ := hlapses
          cases hcondition
      | @giveUp _ _ _ id _ _ _ _ hform =>
          match id with
          | 0 => cases hform
          | 1 => cases hform
          | index + 2 => cases hform

end Grammar

end ScopeCheck
