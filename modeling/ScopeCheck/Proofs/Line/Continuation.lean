import ScopeCheck.Proofs.Line.History
import ScopeCheck.Proofs.Line.Refusal
import ScopeCheck.Proofs.Line.Tiling

/-!
# Which open rules go on

At the start of a line the conditions of the open rules are searched for, the outermost first, each
where the match of the one before it has ended.  The first one that does not match ends its rule and
all that was opened inside it; the conditions in there are not searched for any more.

* `Grammar.ConditionsHold.checkConditions_append` and `Grammar.Lapses.checkConditions_eq`: the
  checks pass conditions that hold, and stop at one that lapses, whatever stands inside it;
* `Grammar.Reachable.outermost_condition?`: the outermost rule has no condition, so it always goes
  on;
* `Grammar.ConditionsHold.pos_eq`: the checks end where the latest match does;
* `Emitted.EndsAt`: the tokens so far cover the text exactly up to a position.  `Covers.endsAt` and
  `Grammar.ConditionsHold.endsAt` keep it, if no group reaches behind the match of its condition;
* `Grammar.StartsBehind` puts this together, and `Grammar.Reachable.conditions_decide` says that a
  line starts like that if no search for it is refused.
-/

namespace ScopeCheck

variable {ρ : Type} {engine : RegexEngine ρ} {g : Grammar ρ} {scanner : Scanner ρ}
  {text line : Array Char} {state : LineState ρ} {s : Scan ρ}

/-! ## Conditions that hold, and one that does not -/

namespace Grammar

variable {bottom frame : Frame ρ} {kept passed inner : List (Frame ρ)} {taken : List Found}
  {point last : ScanPoint} {out final : Emitted}

/-- Frames of which there is at least one are those of their stack. -/
theorem frames_stackOf {bottom : Frame ρ} {frames : List (Frame ρ)} (hne : frames ≠ []) :
    (stackOf bottom frames).frames = frames := by
  cases frames with
  | nil => exact absurd rfl hne
  | cons top below => rfl

theorem stackOf_frames (bottom : Frame ρ) (stack : Stack ρ) :
    stackOf bottom stack.frames = stack := rfl

/-- The checks pass the frames whose conditions hold, whatever stands inside them. -/
theorem ConditionsHold.checkConditions_append
    (h : g.ConditionsHold engine scanner text passed taken point out last final) :
    g.checkConditions engine scanner text bottom kept (passed ++ inner) point out =
      g.checkConditions engine scanner text bottom (passed.reverse ++ kept) inner last final := by
  induction h generalizing kept with
  | nil => rfl
  | skip hcondition _ ih =>
      rw [List.cons_append, checkConditions, hcondition, List.reverse_cons, List.append_assoc]
      exact ih
  | holds hcondition hfound hcover _ ih =>
      obtain ⟨covered, hcovered, rfl⟩ := hcover
      rw [List.cons_append, checkConditions, hcondition, List.reverse_cons, List.append_assoc]
      dsimp only
      rw [hfound]
      dsimp only
      rw [hcovered]
      exact ih

/-- The checks stop at a condition that lapses. -/
theorem Lapses.checkConditions_eq (h : g.Lapses engine text frame point) :
    g.checkConditions engine scanner text bottom kept (frame :: inner) point out =
      .ok ⟨point, stackOf bottom kept, out⟩ := by
  obtain ⟨pattern, captures, hcondition, hnone⟩ := h
  rw [checkConditions, hcondition]
  dsimp only
  rw [hnone]

/-- The latest match ends where the scan goes on. -/
theorem ConditionsHold.pos_eq
    (h : g.ConditionsHold engine scanner text passed taken point out last final) :
    last.pos = (taken.getLast?.map fun found => found.whole.stop).getD point.pos := by
  induction h with
  | nil => rfl
  | skip _ _ ih => exact ih
  | @holds _ _ _ _ found taken _ _ _ _ _ _ _ _ _ ih =>
      rw [ih, List.getLast?_cons]
      cases taken.getLast? <;> rfl

theorem IsContainer.condition? (h : g.IsContainer frame.rule) : g.condition? frame = none := by
  obtain ⟨patterns, hform⟩ := h
  rw [Grammar.condition?, hform]

/-- A container is at the bottom of every stack with which a line starts. -/
theorem Reachable.outermost_condition? (hloaded : g.Loaded engine)
    (hstate : g.Reachable engine state) :
    ∃ outermost inner, (g.lineStack state).frames.reverse = outermost :: inner ∧
      g.condition? outermost = none := by
  have hlast := hstate.keeps_lineStack root_invariant
  rw [← List.head?_reverse] at hlast
  obtain ⟨inner, hframes⟩ := List.head?_eq_some_iff.1 hlast
  have hroot : g.IsContainer (Stack.root g.root g.scopeName : Stack ρ).top.rule :=
    hloaded.coherent.root_container
  exact ⟨_, inner, hframes, hroot.condition?⟩

end Grammar

/-! ## Tokens up to the latest match -/

/-- The tokens so far cover the text exactly up to a position. -/
def Emitted.EndsAt (out : Emitted) (pos : Nat) : Prop :=
  out.Inside pos ∧ pos ≤ out.reached

theorem Emitted.endsAt_none : Emitted.none.EndsAt 0 :=
  ⟨Emitted.inside_none 0, Nat.le_refl 0⟩

theorem Emitted.EndsAt.tiles {out : Emitted} {pos : Nat} (h : out.EndsAt pos) :
    Tiles out.tokens pos := by
  obtain ⟨⟨htiles, hle⟩, hge⟩ := h
  rwa [Nat.le_antisymm hle hge] at htiles

/-- Where no group reaches behind a match, the tokens end with it. -/
theorem Covers.endsAt {atTextStart : Bool} {base scopes : List String} {captures : GroupRules}
    {found : Found} {pos : Nat} {before after : Emitted}
    (hscanner : scanner.StaysBelow found.whole.stop) (hahead : found.Ahead text.size pos)
    (hgroups : found.GroupsInside found.whole.stop)
    (hcover : Covers scanner text atTextStart base captures found
      (before.upTo scopes found.whole.start) after)
    (hbefore : before.EndsAt pos) : after.EndsAt found.whole.stop := by
  -- The match is also one inside the text that ends with it.
  have hmatch : found.Ahead found.whole.stop pos :=
    ⟨hahead.pos_le, hahead.start_le, Nat.le_refl _⟩
  have hpos : pos ≤ found.whole.stop := Nat.le_trans hahead.pos_le hahead.start_le
  refine ⟨hcover.inside_of_bounds hscanner (fun _ hbound => hbound.le hmatch hgroups)
    (hbefore.1.mono hpos), ?_⟩
  obtain ⟨covered, _, rfl⟩ := hcover
  exact Emitted.le_reached_upTo _ _ _

namespace Grammar

theorem ConditionsHold.endsAt {passed : List (Frame ρ)} {taken : List Found}
    {point last : ScanPoint} {out final : Emitted} (hengine : engine.SearchesForward)
    (hscanner : ∀ limit, scanner.StaysBelow limit)
    (h : g.ConditionsHold engine scanner text passed taken point out last final)
    (hgroups : ∀ found ∈ taken, found.GroupsInside found.whole.stop)
    (hout : out.EndsAt point.pos) : final.EndsAt last.pos := by
  induction h with
  | nil => exact hout
  | skip _ _ ih => exact ih hgroups hout
  | holds _ hfound hcover _ ih =>
      obtain ⟨hown, hrest⟩ := List.forall_mem_cons.1 hgroups
      obtain ⟨_, regex, hregex⟩ := Pattern.search_eq_some hfound
      exact ih hrest (hcover.endsAt (hscanner _) (hengine regex _ _ _ hregex) hown hout)

/-! ## The start of a line -/

/-- How the scan of a line starts.  The frames that are kept, the outermost first, are those whose
conditions hold; `taken` are the matches of these conditions. -/
structure StartsBehind (engine : RegexEngine ρ) (g : Grammar ρ) (scanner : Scanner ρ)
    (text : Array Char) (state : LineState ρ) (s : Scan ρ) (kept : List (Frame ρ))
    (taken : List Found) : Prop where
  hold : g.ConditionsHold engine scanner text kept taken (startPoint state (g.lineStack state))
    .none s.point s.emitted
  /-- All frames are kept, or those outside the first one whose condition lapses.  In this case any
  other frames inside it would make no difference. -/
  stack : ((g.lineStack state).frames.reverse = kept ∧ s.stack = g.lineStack state) ∨
    ∃ frame inner, (g.lineStack state).frames.reverse = kept ++ frame :: inner ∧
      g.Lapses engine text frame s.point ∧ s.stack.frames.reverse = kept ∧
      ∀ bottom other, g.checkConditions engine scanner text bottom [] (kept ++ frame :: other)
        (startPoint state (g.lineStack state)) .none = .ok s
  /-- The scan starts where the latest match ends, and else at the start of the line. -/
  pos_eq : s.point.pos = (taken.getLast?.map fun found => found.whole.stop).getD 0
  /-- The tokens so far cover the text up to there, if groups lie inside the text and those of
  conditions end with the match. -/
  tiles : engine.StaysInside → (∀ found ∈ taken, found.GroupsInside found.whole.stop) →
    Tiles s.emitted.tokens s.point.pos

theorem lineStart_startsBehind (hloaded : g.Loaded engine) (hstate : g.Reachable engine state)
    {bound : Nat}
    (h : g.lineStart engine (g.scan engine bound) line state = .ok s) :
    ∃ kept taken, g.StartsBehind engine (g.scan engine bound) line state s kept taken := by
  obtain ⟨kept, taken, left, hframes, hhold, hstack, hlapses⟩ := checkConditions_eq_ok h
  -- The outermost frame cannot lapse, so the stack behind the checks is that of the kept frames.
  have hne : kept ≠ [] := by
    rintro rfl
    obtain ⟨outermost, inner, houtermost, hnone⟩ := hstate.outermost_condition? hloaded
    rw [houtermost, List.nil_append] at hframes
    obtain ⟨pattern, captures, hcondition, _⟩ := hlapses outermost (hframes ▸ rfl)
    rw [hnone] at hcondition
    cases hcondition
  have hkept : s.stack.frames = kept.reverse := by
    rw [hstack, List.append_nil, frames_stackOf (mt List.reverse_eq_nil_iff.1 hne)]
  refine ⟨kept, taken, hhold, ?_, hhold.pos_eq, fun hengine hgroups => ?_⟩
  · cases left with
    | nil =>
        rw [List.append_nil] at hframes
        refine Or.inl ⟨hframes, ?_⟩
        rw [hstack, List.append_nil, ← hframes, List.reverse_reverse, stackOf_frames]
    | cons frame inner =>
        have hlapse := hlapses frame rfl
        refine Or.inr ⟨frame, inner, hframes, hlapse, ?_, fun bottom other => ?_⟩
        · rw [hkept, List.reverse_reverse]
        · rw [hhold.checkConditions_append, hlapse.checkConditions_eq, List.append_nil, ← hkept,
            stackOf_frames]
  · exact (hhold.endsAt hengine.searchesForward (scan_staysBelow hengine bound) hgroups
      Emitted.endsAt_none).tiles

/-- A line for which no search is refused starts behind the conditions that hold, from the outside,
unless captured text is matched inside itself without end. -/
theorem Reachable.conditions_decide (hengine : engine.SearchesForward) (hloaded : g.Loaded engine)
    (hstate : g.Reachable engine state) {bound : Nat}
    (hsearches : ∀ pattern q e, g.MakesSearch engine bound line state pattern q →
      pattern.search engine q ≠ .error e) :
    g.lineStart engine (g.scan engine bound) line state = .error .endless ∨
    ∃ s kept taken, g.lineStart engine (g.scan engine bound) line state = .ok s ∧
      g.StartsBehind engine (g.scan engine bound) line state s kept taken := by
  cases hstart : g.lineStart engine (g.scan engine bound) line state with
  | ok s =>
      obtain ⟨kept, taken, hbehind⟩ := lineStart_startsBehind hloaded hstate hstart
      exact Or.inr ⟨s, kept, taken, rfl, hbehind⟩
  | error e =>
      left
      rcases hstate.fails_by hengine hloaded (lineStart_fails_by hstart) with
        rfl | ⟨pattern, q, own, hsearch, hrefused, _⟩
      · rfl
      · exact absurd hrefused (hsearches pattern q own hsearch)

end Grammar

/-! ## Notes in a quoted tag -/

namespace Sample

/-- Quoted lines start with `>`, tags in them go from `<` to `/`, and notes in a tag go on while
lines go on with `-`. -/
def quotedDocument : Document :=
  let note : Entry := { Entry.blank with beginSource := some "-", whileSource := some "-" }
  let tag : Entry := { Entry.blank with
    beginSource := some "<"
    endSource := some "/"
    patterns := some [note] }
  { Document.blank with patterns := [{ Entry.blank with
    beginSource := some ">"
    whileSource := some ">"
    patterns := some [tag] }] }

/-- The grammar that is read from the document. -/
def quotedGrammar : Grammar (List Char) where
  scopeName := "s"
  rules := #[⟨none, none, .container [1]⟩,
    ⟨none, none, .during (pattern ">") [] (pattern ">") [] [2]⟩,
    ⟨none, none, .region (pattern "<") [] (pattern "/") [] false [3]⟩,
    ⟨none, none, .during (pattern "-") [] (pattern "-") [] []⟩]
  root := 0
  entries := #[[1], [2], [3], []]

theorem quotedGrammar_loaded : quotedGrammar.Loaded .literal := by
  refine ⟨.ofDocuments [("s", quotedDocument)], "s", ?_⟩
  cbv

/-- The stack behind a line that opens a quote, with a tag and a note in it. -/
def insideNote : Stack (List Char) :=
  ⟨⟨3, some 2, some 2, false, ["s"], ["s"], none⟩,
    ⟨2, some 1, some 1, false, ["s"], ["s"], none⟩ ::
    ⟨1, some 0, none, false, ["s"], ["s"], none⟩ :: (Stack.root 0 "s").frames⟩

theorem insideNote_reachable : quotedGrammar.Reachable .literal (.inside insideNote) := by
  have hline : quotedGrammar.tokenize .literal "><-x" .initial =
      .ok ⟨[⟨0, 1, ["s"]⟩, ⟨1, 2, ["s"]⟩, ⟨2, 3, ["s"]⟩, ⟨3, 4, ["s"]⟩], .inside insideNote⟩ := by
    rfl
  exact .line .initial hline

/-- Where the scan of a quoted line starts that does not go on with the note: the tag stays open. -/
def behindNote : Scan (List Char) :=
  ⟨⟨1, some 1, false⟩, insideNote.pop.forNextLine, ⟨[⟨0, 1, ["s"]⟩], 1⟩⟩

end Sample

/-- The engine refuses nothing, so no search of the line is refused. -/
theorem Grammar.Reachable.sample_conditions_decide :
    RegexEngine.literal.SearchesForward ∧ Sample.quotedGrammar.Loaded .literal ∧
    Sample.quotedGrammar.Reachable .literal (.inside Sample.insideNote) ∧
    (∀ pattern q e,
      Sample.quotedGrammar.MakesSearch .literal 2 (lineText ">x") (.inside Sample.insideNote)
        pattern q → pattern.search .literal q ≠ .error e) ∧
    ∃ kept taken, Sample.quotedGrammar.lineStart .literal (Sample.quotedGrammar.scan .literal 2)
        (lineText ">x") (.inside Sample.insideNote) = .ok Sample.behindNote ∧
      Sample.quotedGrammar.StartsBehind .literal (Sample.quotedGrammar.scan .literal 2)
        (lineText ">x") (.inside Sample.insideNote) Sample.behindNote kept taken := by
  have hengine := RegexEngine.literal_staysInside.searchesForward
  have haccepts : RegexEngine.literal.AcceptsUnmatchable := ⟨_, rfl⟩
  have hsearches : ∀ pattern q e,
      Sample.quotedGrammar.MakesSearch .literal 2 (lineText ">x") (.inside Sample.insideNote)
        pattern q → pattern.search .literal q ≠ .error e := by
    intro pattern q e hsearch hrefused
    obtain ⟨_, _, hvariant⟩ := (hsearch.lateRefusal haccepts Sample.quotedGrammar_loaded
      Sample.insideNote_reachable hrefused).variant
    cases hvariant
  have hstart : Sample.quotedGrammar.lineStart .literal (Sample.quotedGrammar.scan .literal 2)
      (lineText ">x") (.inside Sample.insideNote) = .ok Sample.behindNote := by
    rfl
  refine ⟨hengine, Sample.quotedGrammar_loaded, Sample.insideNote_reachable, hsearches, ?_⟩
  rcases Reachable.conditions_decide hengine Sample.quotedGrammar_loaded
    Sample.insideNote_reachable hsearches with hendless | ⟨s, kept, taken, hok, hbehind⟩
  · cases hstart.symm.trans hendless
  · obtain rfl := Except.ok.inj (hstart.symm.trans hok)
    exact ⟨kept, taken, hstart, hbehind⟩

end ScopeCheck
