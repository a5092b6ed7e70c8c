import ScopeCheck.Proofs.Line.History

/-!
# Where the start of the text may be asked for

A search may allow patterns to ask for the start of the text.  The scan point carries a flag for
this, which is set where the first line starts and cleared as soon as the point moves on; it is not
computed from the position.

* `ScanPoint.MarksStart` says what the flag means.  The checks of conditions keep it, and so do the
  steps of scans and the starts of scans of captured text;
* `Grammar.Run.start_allowed_iff` concludes for all searches of a text: the start is allowed on the
  first line, at its start, and in captured text only if the matches around it were searched for
  from there as well;
* `Grammar.start_forbidden_at_start` shows that the last condition is needed: a group may lie in
  front of the place from which its match was searched for.
-/

namespace ScopeCheck

variable {ρ : Type} {engine : RegexEngine ρ} {g : Grammar ρ} {line text : Array Char}
  {state : LineState ρ} {s : Scan ρ} {bound depth : Nat} {past : List Passage} {around : List Nat}

namespace ScanPoint

/-- The flag is set where the first line starts, if the matches around were searched for there. -/
def MarksStart (firstLine : Bool) (around : List Nat) (point : ScanPoint) : Prop :=
  point.atTextStart = true ↔ firstLine = true ∧ point.pos = 0 ∧ ∀ pos ∈ around, pos = 0

/-- Behind an empty match at the start of the text is still the start of the text. -/
theorem MarksStart.forward {firstLine : Bool} {point later : ScanPoint}
    (h : point.MarksStart firstLine around) (hpos : point.pos ≤ later.pos)
    (hflag : later.atTextStart = (point.atTextStart && decide (later.pos ≤ point.pos))) :
    later.MarksStart firstLine around := by
  unfold MarksStart at h ⊢
  rw [hflag, Bool.and_eq_true, decide_eq_true_iff, h]
  constructor
  · rintro ⟨⟨hfirst, hzero, haround⟩, hle⟩
    exact ⟨hfirst, by omega, haround⟩
  · rintro ⟨hfirst, hzero, haround⟩
    exact ⟨⟨hfirst, by omega, haround⟩, by omega⟩

end ScanPoint

/-- Captured text starts where the text does if its group lies there, and if its match was searched
for from there. -/
theorem ScansGroupAt.marksStart {firstLine : Bool} {point : ScanPoint} {found : Found}
    {captures : GroupRules} {inside : Array Char}
    (hpoint : point.MarksStart firstLine around)
    (h : ScansGroupAt point.atTextStart found captures text inside s) :
    s.point.MarksStart firstLine (point.pos :: around) := by
  obtain ⟨number, rule, container, span, _, _, _, _, base, before, rfl⟩ := h
  unfold ScanPoint.MarksStart at hpoint ⊢
  show (point.atTextStart && decide (span.start = 0)) = true ↔
    firstLine = true ∧ span.start = 0 ∧ _
  rw [Bool.and_eq_true, decide_eq_true_iff, hpoint, List.forall_mem_cons]
  constructor
  · rintro ⟨⟨hfirst, hzero, haround⟩, hstart⟩
    exact ⟨hfirst, hstart, hzero, haround⟩
  · rintro ⟨hfirst, hstart, hzero, haround⟩
    exact ⟨⟨hfirst, hzero, haround⟩, hstart⟩

namespace Grammar

theorem Checking.marksStart (hengine : engine.SearchesForward) {inner : List (Frame ρ)}
    {point : ScanPoint} (h : g.Checking engine line state past inner point) :
    point.MarksStart state.isFresh [] := by
  induction h with
  | start =>
      refine ⟨fun hfresh => ⟨hfresh, rfl, ?_⟩, fun hfresh => hfresh.1⟩
      intro pos hpos
      cases hpos
  | skip _ _ ih => exact ih
  | goesOn _ _ hfound ih =>
      obtain ⟨_, regex, hregex⟩ := Pattern.search_eq_some hfound
      have hahead := hengine regex _ _ _ hregex
      -- The match ends behind the point or at it; an empty match at it leaves the flag as it is.
      exact ih.forward (Nat.le_trans hahead.pos_le hahead.start_le) rfl

/-- The flag is right wherever a line is scanned, or a captured text in it. -/
theorem VisitsAfter.marksStart (hengine : engine.SearchesForward)
    (h : g.VisitsAfter engine bound line state past around depth text s) :
    s.point.MarksStart state.isFresh around := by
  induction h with
  | line hstart =>
      obtain ⟨left, hchecking⟩ := lineStart_checking hstart
      exact hchecking.marksStart hengine
  | condition hchecking _ _ hgroup => exact hgroup.marksStart (hchecking.marksStart hengine)
  | next _ hnext hstep ih =>
      have hahead := next_ahead hengine hnext
      have hbehind := (step_move hstep).passage hnext
      refine ih.forward ?_ ?_
      · rw [hbehind.pos_eq]
        exact Nat.le_trans hahead.pos_le hahead.start_le
      · rw [hbehind.pos_eq]
        exact hbehind.atTextStart_eq
  | inner _ _ hgroup ih => exact hgroup.marksStart ih

/-- In every search of a text, patterns may ask for the start of the text if and only if the line is
the first one, the search starts at its start, and the matches around it, if there are any, were
searched for from there. -/
theorem Run.start_allowed_iff (hengine : engine.SearchesForward) {read : List String}
    (hrun : g.Run engine read state) {pattern : Pattern ρ} {q : Query}
    (hsearch : g.Searches engine bound line state past around pattern q) :
    q.allowStart = true ↔ read = [] ∧ q.start = 0 ∧ ∀ pos ∈ around, pos = 0 := by
  rw [← hrun.isFresh_iff]
  cases hsearch with
  | condition hchecking => exact hchecking.marksStart hengine
  | candidate hvisits => exact hvisits.marksStart hengine

end Grammar

/-! ## A group in front of its match -/

/-- The engine that reads every source as the text to be found.  The first group of a match is the
text in front of it. -/
def RegexEngine.lookingBack : RegexEngine (List Char) where
  compile source := .ok source.toList
  search word text start := (literalSearch word text start).map fun found =>
    { found with groups := [some ⟨0, found.whole.start⟩] }

theorem RegexEngine.lookingBack_searchesForward :
    RegexEngine.lookingBack.SearchesForward := by
  intro word text start found hfound
  obtain ⟨plain, hplain, rfl⟩ := Option.map_eq_some_iff.1 hfound
  have hahead := RegexEngine.literal_staysInside.searchesForward word text start plain hplain
  exact ⟨hahead.pos_le, hahead.start_le, hahead.stop_le⟩

namespace Sample

/-- Its first rule matches `a`.  The second one matches `b`, and what stands in front of it is
scanned for the start of the text. -/
def behindDocument : Document :=
  let start : Entry := { Entry.blank with matchSource := some "\\A" }
  let front : Entry := { Entry.blank with patterns := some [start] }
  { Document.blank with patterns := [
    { Entry.blank with matchSource := some "a" },
    { Entry.blank with matchSource := some "b", captures := some [("1", front)] }] }

/-- The grammar that is read from the document. -/
def behindGrammar : Grammar (List Char) where
  scopeName := "s"
  rules :=
    let pattern := Pattern.ofSource .lookingBack
    #[⟨none, none, .container [1, 2]⟩,
      ⟨none, none, .single (pattern "a") []⟩,
      ⟨none, none, .single (pattern "b") [(1, ⟨none, none, some 3⟩)]⟩,
      ⟨none, none, .container [4]⟩,
      ⟨none, none, .single (pattern "\\A") []⟩]
  root := 0
  entries := #[[1, 2], [], [], [4], []]

theorem behindGrammar_loaded : behindGrammar.Loaded .lookingBack := by
  refine ⟨.ofDocuments [("s", behindDocument)], "s", ?_⟩
  cbv

/-- The search for the start of the text in front of the `b` of the first line. -/
def behindQuery : Query := ⟨#['a'], 0, false, false⟩

/-- The scan of the line `ab` where it starts. -/
def atA : Scan (List Char) := ⟨⟨0, none, true⟩, Stack.root 0 "s", .none⟩

/-- The scan behind the `a`. -/
def atB : Scan (List Char) := ⟨⟨1, none, false⟩, Stack.root 0 "s", ⟨[⟨0, 1, ["s"]⟩], 1⟩⟩

/-- The scan of what stands in front of the `b`. -/
def frontOfB : Scan (List Char) :=
  innerScan 3 ["s"] ⟨none, none, some 3⟩ (lineText "ab") ⟨⟨1, 2⟩, [some ⟨0, 1⟩]⟩ false 0 atB.emitted

/-- The match of `a` has been read by then, and the match of `b` was searched for from behind it. -/
theorem behind_searches :
    behindGrammar.Searches .lookingBack 2 (lineText "ab") .initial
      [⟨.single, ⟨0, 1⟩, ["s"], ["s"]⟩] [1] (.ofSource .lookingBack "\\A") behindQuery := by
  have hfirst : behindGrammar.next .lookingBack (lineText "ab") atA.point
      atA.stack.top = .ok (some (.rule 1, ⟨⟨0, 1⟩, [some ⟨0, 0⟩]⟩)) := by
    rfl
  have hstep : behindGrammar.step .lookingBack (behindGrammar.scan .lookingBack 1) (lineText "ab")
      atA = .ok (.next atB) := by
    cbv
  have hsecond : behindGrammar.next .lookingBack (lineText "ab") atB.point atB.stack.top =
      .ok (some (.rule 2, ⟨⟨1, 2⟩, [some ⟨0, 1⟩]⟩)) := by
    rfl
  have hgroup : ScansGroupAt atB.point.atTextStart ⟨⟨1, 2⟩, [some ⟨0, 1⟩]⟩
      (behindGrammar.capturesOf atB.stack (.rule 2)) (lineText "ab") #['a'] frontOfB :=
    ⟨1, _, 3, ⟨0, 1⟩, List.mem_singleton_self _, rfl, rfl, rfl, ["s"], atB.emitted, rfl⟩
  have hvisits : behindGrammar.VisitsAfter .lookingBack 2 (lineText "ab") .initial
      [⟨.single, ⟨0, 1⟩, ["s"], ["s"]⟩] [1] 1 #['a'] frontOfB :=
    .inner (.next (.line rfl) hfirst hstep) hsecond hgroup
  have hcandidate : (Candidate.rule 4, Pattern.ofSource .lookingBack "\\A") ∈
      behindGrammar.candidates frontOfB.stack.top :=
    List.mem_singleton_self _
  exact .candidate hvisits hcandidate

end Sample

namespace Grammar

/-- The start of the text is not allowed in this search, since it is inside a match that was
searched for from behind the start. -/
theorem Run.sample_start_allowed_iff :
    RegexEngine.lookingBack.SearchesForward ∧
    Sample.behindGrammar.Run .lookingBack [] .initial ∧
    Sample.behindGrammar.Searches .lookingBack 2 (lineText "ab") .initial
      [⟨.single, ⟨0, 1⟩, ["s"], ["s"]⟩] [1] (.ofSource .lookingBack "\\A") Sample.behindQuery ∧
    (Sample.behindQuery.allowStart = true ↔
      ([] : List String) = [] ∧ Sample.behindQuery.start = 0 ∧ ∀ pos ∈ [1], pos = 0) :=
  ⟨RegexEngine.lookingBack_searchesForward, .start, Sample.behind_searches,
    Run.start_allowed_iff RegexEngine.lookingBack_searchesForward .start Sample.behind_searches⟩

/-- A search that starts at the start of the first line and may not ask for the start of the
text. -/
theorem start_forbidden_at_start :
    Sample.behindGrammar.Loaded .lookingBack ∧
    Sample.behindGrammar.Run .lookingBack [] .initial ∧
    ∃ past around pattern q,
      Sample.behindGrammar.Searches .lookingBack 2 (lineText "ab") .initial past around pattern q ∧
        q.start = 0 ∧ q.allowStart = false :=
  ⟨Sample.behindGrammar_loaded, .start, _, _, _, _, Sample.behind_searches, rfl, rfl⟩

end Grammar

end ScopeCheck
