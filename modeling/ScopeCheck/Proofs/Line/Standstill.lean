import Mathlib.Logic.Relation
import ScopeCheck.Proofs.Line.History
import ScopeCheck.Proofs.Line.Lifetime
import ScopeCheck.Proofs.Line.Progress

/-!
# Scans that are given up stand still

Two guards give up the rest of a text: a rule without a region has matched the empty text, or the
innermost rule would end where it was entered.  Neither of them comes too early, since a scan that
went on would only come to where it has been before.

* `ScanState` is what the further steps of a scan depend on, and `Grammar.Passes` is a step that no
  guard ends; it leads to one state only, and every step that goes on is one, `Move.passes`;
* `Grammar.Begins` are the scans that are started, those of lines and those of captured texts;
* `Grammar.Retraceable`: wherever a rule has been entered at the point of a scan, the scan was once
  in the state that leaving the rule brings back.  It holds where a scan begins and is kept by
  steps;
* `Grammar.Reachable.given_up_stands_still`: without its guard the step leads back to a state of the
  same scan, and all that follows are states of this scan.
-/

namespace ScopeCheck

variable {ρ : Type} {engine : RegexEngine ρ} {g : Grammar ρ} {scanner : Scanner ρ}
  {text line : Array Char} {state : LineState ρ} {start s s' : Scan ρ} {bound depth : Nat}

/-! ## Steps without guards -/

/-- What the further steps of a scan depend on: the position, the entry anchor, whether this is the
start of the first line, and the open rules. -/
structure ScanState (ρ : Type) where
  point : ScanPoint
  stack : Stack ρ

/-- A scan without its tokens. -/
def Scan.toState (s : Scan ρ) : ScanState ρ := ⟨s.point, s.stack⟩

/-- A scan in some state; its tokens do not matter. -/
def ScanState.scan (p : ScanState ρ) : Scan ρ := ⟨p.point, p.stack, .none⟩

namespace Grammar

/-- Where a scan goes on behind a match if no guard ends it: an end takes the innermost frame from
the stack and brings back the anchor, a rule without a region leaves the stack as it is, and a rule
with one is entered. -/
def unguarded (engine : RegexEngine ρ) (g : Grammar ρ) (text : Array Char) (p : ScanState ρ) :
    Candidate → Found → ScanState ρ
  | .last, found => ⟨(pointBehind p.scan).moveTo found.whole.stop, p.stack.pop⟩
  | .rule id, found =>
    match (g.rule id).closing? with
    | none => ⟨p.point.moveTo found.whole.stop, p.stack⟩
    | some closing =>
      ⟨p.point.behind found, p.stack.push (g.frameOf engine text id closing found p.scan)⟩

/-- A step that no guard ends. -/
def Passes (engine : RegexEngine ρ) (g : Grammar ρ) (text : Array Char) (p q : ScanState ρ) :
    Prop :=
  ∃ candidate found, g.next engine text p.point p.stack.top = .ok (some (candidate, found)) ∧
    q = g.unguarded engine text p candidate found

theorem passes_rightUnique : Relator.RightUnique (g.Passes engine text) := by
  rintro p q q' ⟨candidate, found, hnext, rfl⟩ ⟨candidate', found', hnext', rfl⟩
  obtain ⟨rfl, rfl⟩ := Prod.mk.inj (Option.some.inj (Except.ok.inj (hnext.symm.trans hnext')))
  rfl

/-- A step that goes on is one that no guard ends. -/
theorem Move.passes (hmove : g.Move engine scanner text s (.next s')) :
    g.Passes engine text s.toState s'.toState := by
  cases hmove with
  | leave hcover => exact ⟨_, _, hcover.1, rfl⟩
  | @single id found out pattern captures hform hcover =>
      refine ⟨_, _, hcover.1, ?_⟩
      have hclosing : (g.rule id).closing? = none := by rw [Rule.closing?, hform]
      simp only [unguarded, hclosing]
      rfl
  | @enter id found out closing hclosing hcover =>
      refine ⟨_, _, hcover.1, ?_⟩
      simp only [unguarded, hclosing]
      rfl

/-! ## Where scans begin -/

/-- The scans that a line starts: its own, and those of captured texts. -/
inductive Begins (engine : RegexEngine ρ) (g : Grammar ρ) (bound : Nat) (line : Array Char)
    (state : LineState ρ) : Nat → Array Char → Scan ρ → Prop
  | line {s : Scan ρ} (hstart : g.lineStart engine (g.scan engine bound) line state = .ok s) :
      Begins engine g bound line state bound line s
  | condition {inside : Array Char} {s : Scan ρ}
      (hstarts : Starts (fun scanner => g.lineStart engine scanner line state)
        (g.scan engine bound) inside s) :
      Begins engine g bound line state bound inside s
  | inner {depth : Nat} {text inside : Array Char} {s s' : Scan ρ}
      (hvisits : g.Visits engine bound line state (depth + 1) text s)
      (hstarts : Starts (fun scanner => g.step engine scanner text s) (g.scan engine depth)
        inside s') :
      Begins engine g bound line state depth inside s'

theorem Begins.visits (h : g.Begins engine bound line state depth text s) :
    g.Visits engine bound line state depth text s := by
  cases h with
  | line hstart => exact .line hstart
  | condition hstarts => exact .condition hstarts
  | inner hvisits hstarts => exact .inner hvisits hstarts

/-- What a line comes to are the scans to which the steps of those that it starts lead. -/
theorem visits_iff_exists_begins :
    g.Visits engine bound line state (depth + 1) text s ↔
      ∃ start, g.Begins engine bound line state (depth + 1) text start ∧
        Relation.ReflTransGen (g.GoesOn engine (g.scan engine depth) text) start s := by
  constructor
  · intro h
    generalize hdepth : depth + 1 = inside at h
    induction h with
    | line hstart => exact ⟨_, .line hstart, .refl⟩
    | condition hstarts => exact ⟨_, .condition hstarts, .refl⟩
    | next _ hstep ih =>
        obtain rfl := Nat.succ.inj hdepth
        obtain ⟨start, hbegins, hrun⟩ := ih rfl
        exact ⟨start, hbegins, hrun.tail hstep⟩
    | inner hvisits hstarts => exact ⟨_, .inner hvisits hstarts, .refl⟩
  · rintro ⟨start, hbegins, hrun⟩
    induction hrun with
    | refl => exact hbegins.visits
    | tail _ hstep ih => exact ih.next hstep

/-- A line starts with rules that were entered on lines before. -/
theorem lineStack_openedAt {f : Frame ρ} (hf : f ∈ (g.lineStack state).frames) :
    f.openedAt = none := by
  cases state with
  | initial =>
      obtain rfl := List.mem_singleton.1 hf
      rfl
  | inside stack =>
      obtain ⟨_, _, rfl⟩ := List.mem_map.1 (show f ∈ stack.frames.map Frame.forNextLine from hf)
      rfl

/-- A scan begins with rules that were entered on lines before, or with one that is open from its
start on. -/
theorem Begins.opened (h : g.Begins engine bound line state depth text s) :
    (∀ f ∈ s.stack.frames, f.openedAt = none) ∨
      ∃ bottom, s.stack = ⟨bottom, []⟩ ∧ bottom.openedAt = some s.point.pos := by
  cases h with
  | line hstart =>
      exact Or.inl fun f hf => lineStack_openedAt ((lineStart_frames hstart).subset hf)
  | condition hstarts =>
      obtain ⟨_, _, _, _, _, _, _, _, _, _, _, _, _, _, rfl⟩ := hstarts.ofLineStart_found
      exact Or.inr ⟨_, rfl, rfl⟩
  | inner _ hstarts =>
      obtain ⟨_, _, _, _, _, _, _, _, _, _, _, _, _, _, _, rfl⟩ := hstarts.ofStep_found
      exact Or.inr ⟨_, rfl, rfl⟩

/-! ## States that come back -/

/-- A state in which a scan that began with `start` was before it came to `s`, or in which it is
there. -/
def HasBeenIn (engine : RegexEngine ρ) (g : Grammar ρ) (scanner : Scanner ρ) (text : Array Char)
    (start s : Scan ρ) (p : ScanState ρ) : Prop :=
  ∃ earlier, Relation.ReflTransGen (g.GoesOn engine scanner text) start earlier ∧
    Relation.ReflTransGen (g.GoesOn engine scanner text) earlier s ∧ earlier.toState = p

/-- No rule has been entered behind the point, and for each that has been entered at the point the
scan was once in the state that leaving it brings back. -/
structure Retraceable (engine : RegexEngine ρ) (g : Grammar ρ) (scanner : Scanner ρ)
    (text : Array Char) (start s : Scan ρ) : Prop where
  opened_le : ∀ f ∈ s.stack.frames, ∀ pos, f.openedAt = some pos → pos ≤ s.point.pos
  entered : ∀ f below outer, f :: below :: outer <:+ s.stack.frames →
    f.openedAt = some s.point.pos →
      g.HasBeenIn engine scanner text start s
        ⟨{ s.point with anchor := f.anchor }, ⟨below, outer⟩⟩

theorem Begins.retraceable (h : g.Begins engine bound line state depth text start)
    (scanner : Scanner ρ) : g.Retraceable engine scanner text start start := by
  rcases h.opened with hnone | ⟨bottom, hstack, hopened⟩
  · refine ⟨fun f hf pos hpos => ?_, fun f below outer hsuffix hpos => ?_⟩
    · rw [hnone f hf] at hpos
      cases hpos
    · rw [hnone f (hsuffix.subset List.mem_cons_self)] at hpos
      cases hpos
  · refine ⟨fun f hf pos hpos => ?_, fun f below outer hsuffix _ => ?_⟩
    · rw [hstack] at hf
      obtain rfl := List.mem_singleton.1 hf
      exact Nat.le_of_eq (Option.some.inj (hpos.symm.trans hopened))
    · -- With a single frame no rule has been entered by the scan.
      rw [hstack] at hsuffix
      have hlength := hsuffix.length_le
      simp [Stack.frames] at hlength

/-- No step goes back in the text. -/
theorem GoesOn.pos_le (hengine : engine.SearchesForward)
    (hstep : g.GoesOn engine scanner text s s') : s.point.pos ≤ s'.point.pos := by
  obtain ⟨candidate, found, hnext⟩ := (step_move hstep).exists_next
  have hahead := next_ahead hengine hnext
  rw [((step_move hstep).passage hnext).pos_eq]
  exact Nat.le_trans hahead.pos_le hahead.start_le

/-- A step keeps the way back.  Where it moves on, nothing has been entered yet; where it stays,
what was entered before can be left as before, and what is entered now leads back to the step
itself. -/
theorem Retraceable.step (hengine : engine.SearchesForward)
    (h : g.Retraceable engine scanner text start s)
    (hrun : Relation.ReflTransGen (g.GoesOn engine scanner text) start s)
    (hstep : g.GoesOn engine scanner text s s') :
    g.Retraceable engine scanner text start s' := by
  have hmove := step_move hstep
  obtain ⟨candidate, found, hnext⟩ := hmove.exists_next
  have hbehind := hmove.passage hnext
  have hpos := GoesOn.pos_le hengine hstep
  -- A frame of the new stack was there before, or it is entered by this step.
  have hframes : ∀ f outer, f :: outer <:+ s'.stack.frames → f :: outer <:+ s.stack.frames ∨
      (f.openedAt = some s.point.pos ∧ f.anchor = s.point.anchor ∧ outer = s.stack.frames) := by
    intro f outer hsuffix
    rcases hmove.frames with hkept | ⟨top, hpush⟩
    · exact Or.inl (hsuffix.trans hkept)
    · change s'.stack.frames = top :: s.stack.frames at hpush
      rw [hpush, List.suffix_cons_iff] at hsuffix
      rcases hsuffix with heq | hsuffix
      · obtain ⟨rfl, rfl⟩ := List.cons.inj heq
        obtain ⟨id, found, closing, _, _, rfl⟩ := hmove.eq_frameOf hpush
        exact Or.inr ⟨rfl, rfl, rfl⟩
      · exact Or.inl hsuffix
  refine ⟨fun f hf pos hopened => ?_, fun f below outer hsuffix hopened => ?_⟩
  · obtain ⟨inner, outer, hsplit⟩ := List.append_of_mem hf
    rcases hframes f outer (hsplit ▸ List.suffix_append inner _) with hkept | ⟨hentered, _⟩
    · exact Nat.le_trans (h.opened_le f (hkept.subset List.mem_cons_self) pos hopened) hpos
    · obtain rfl := Option.some.inj (hentered.symm.trans hopened)
      exact hpos
  · -- Something has been entered where the scan is now, so the step has not moved on.
    have hstays : s'.point.pos = s.point.pos := by
      refine Nat.le_antisymm ?_ hpos
      rcases hframes f _ hsuffix with hkept | ⟨hentered, _⟩
      · exact h.opened_le f (hkept.subset List.mem_cons_self) _ hopened
      · exact Nat.le_of_eq (Option.some.inj (hopened.symm.trans hentered))
    have hflag : s'.point.atTextStart = s.point.atTextStart := by
      rw [hbehind.atTextStart_eq, ← hbehind.pos_eq, hstays]
      simp
    have hpoint : ({ s'.point with anchor := f.anchor } : ScanPoint) =
        { s.point with anchor := f.anchor } := by
      rw [ScanPoint.mk.injEq]
      exact ⟨hstays, rfl, hflag⟩
    rw [hpoint]
    rcases hframes f _ hsuffix with hkept | ⟨_, hanchor, hbelow⟩
    · obtain ⟨earlier, hbefore, hafter, hstate⟩ :=
        h.entered f below outer hkept (hstays ▸ hopened)
      exact ⟨earlier, hbefore, hafter.tail hstep, hstate⟩
    · refine ⟨s, hrun, .single hstep, ?_⟩
      obtain ⟨point, ⟨top, rest⟩, emitted⟩ := s
      obtain ⟨rfl, rfl⟩ := List.cons.inj hbelow
      rw [hanchor]
      rfl

theorem Begins.retraceable_of_run (hengine : engine.SearchesForward)
    (h : g.Begins engine bound line state depth text start)
    (hrun : Relation.ReflTransGen (g.GoesOn engine scanner text) start s) :
    g.Retraceable engine scanner text start s := by
  induction hrun with
  | refl => exact h.retraceable scanner
  | tail hrun hstep ih => exact ih.step hengine hrun hstep

/-! ## Guards -/

/-- The match of an empty text leads to the state in which it was searched for. -/
theorem unguarded_emptyMatch {id : RuleIndex} {found : Found} {pattern : Pattern ρ}
    {captures : GroupRules} (hform : (g.rule id).form = .single pattern captures)
    (hstop : found.whole.stop = s.point.pos) :
    g.unguarded engine text s.toState (.rule id) found = s.toState := by
  have hclosing : (g.rule id).closing? = none := by rw [Rule.closing?, hform]
  have hpoint : s.point.moveTo found.whole.stop = s.point := by
    rw [hstop, ScanPoint.moveTo]
    simp
  simp only [unguarded, hclosing]
  exact congrArg (ScanState.mk · s.stack) hpoint

/-- The end of a rule where it was entered leads to the state before it was entered. -/
theorem Retraceable.unguarded_emptyRegion (h : g.Retraceable engine scanner text start s)
    {found : Found} (hbelow : s.stack.below ≠ []) (hstop : found.whole.stop = s.point.pos)
    (hopened : s.stack.top.openedAt = some s.point.pos) :
    g.HasBeenIn engine scanner text start s (g.unguarded engine text s.toState .last found) := by
  obtain ⟨point, ⟨top, below⟩, emitted⟩ := s
  cases below with
  | nil => exact absurd rfl hbelow
  | cons below outer =>
      have hback := h.entered top below outer (List.suffix_refl _) hopened
      have hpoint : ({ point with anchor := top.anchor } : ScanPoint).moveTo found.whole.stop =
          { point with anchor := top.anchor } := by
        rw [hstop, ScanPoint.moveTo]
        simp
      show g.HasBeenIn engine scanner text start _
        ⟨({ point with anchor := top.anchor } : ScanPoint).moveTo found.whole.stop, _⟩
      rw [hpoint]
      exact hback

/-- If the step that no guard ends leads to a state of the scan so far, so do all steps after it. -/
theorem hasBeenIn_of_return (hrun : Relation.ReflTransGen (g.GoesOn engine scanner text) start s)
    {back : ScanState ρ} (hpasses : g.Passes engine text s.toState back)
    (hback : g.HasBeenIn engine scanner text start s back) {further : ScanState ρ}
    (hfurther : Relation.ReflTransGen (g.Passes engine text) s.toState further) :
    g.HasBeenIn engine scanner text start s further := by
  induction hfurther with
  | refl => exact ⟨s, hrun, .refl, rfl⟩
  | tail _ hnext ih =>
      obtain ⟨earlier, hbefore, hafter, rfl⟩ := ih
      rcases hafter.cases_head with rfl | ⟨later, hstep, hafter⟩
      · rwa [passes_rightUnique hnext hpasses]
      · -- The scan has made this step as well.
        refine ⟨later, hbefore.tail hstep, hafter, ?_⟩
        exact passes_rightUnique (step_move hstep).passes hnext

/-- A scan goes on from every state in which it was, if it does from the last one. -/
theorem HasBeenIn.exists_passes {p : ScanState ρ}
    (h : g.HasBeenIn engine scanner text start s p)
    (hlast : ∃ back, g.Passes engine text s.toState back) :
    ∃ next, g.Passes engine text p next := by
  obtain ⟨earlier, _, hafter, rfl⟩ := h
  rcases hafter.cases_head with rfl | ⟨later, hstep, _⟩
  · exact hlast
  · exact ⟨_, (step_move hstep).passes⟩

/-- A scan has been nowhere behind where it is. -/
theorem HasBeenIn.pos_le (hengine : engine.SearchesForward) {p : ScanState ρ}
    (h : g.HasBeenIn engine scanner text start s p) : p.point.pos ≤ s.point.pos := by
  obtain ⟨earlier, -, hafter, rfl⟩ := h
  induction hafter using Relation.ReflTransGen.head_induction_on with
  | refl => exact Nat.le_refl _
  | head hstep _ ih => exact Nat.le_trans (GoesOn.pos_le hengine hstep) ih

/-- A step that gives up because a rule has matched the empty text, or because a rule would end
where it was entered, leads without its guard to a state in which the scan was before. -/
theorem Retraceable.back (hengine : engine.SearchesForward)
    (hlayers : g.Layers engine s.stack.frames)
    (h : g.Retraceable engine scanner text start s)
    (hrun : Relation.ReflTransGen (g.GoesOn engine scanner text) start s) {reason : Halt}
    (hmove : g.Move engine scanner text s (.halt reason s'))
    (hreason : reason = .emptyMatch ∨ reason = .emptyRegion) :
    ∃ back, g.Passes engine text s.toState back ∧
      g.HasBeenIn engine scanner text start s back := by
  -- A match that ends at the point or before is an empty one at the point.
  have hstop : ∀ {candidate found},
      g.next engine text s.point s.stack.top = .ok (some (candidate, found)) →
      found.whole.stop ≤ s.point.pos → found.whole.stop = s.point.pos := by
    intro candidate found hnext hle
    have hahead := next_ahead hengine hnext
    exact Nat.le_antisymm hle (Nat.le_trans hahead.pos_le hahead.start_le)
  rcases hreason with rfl | rfl
  · cases hmove with
    | emptyMatch hform hcover hguard =>
        refine ⟨_, ⟨_, _, hcover.1, rfl⟩, ?_⟩
        rw [unguarded_emptyMatch hform (hstop hcover.1 hguard)]
        exact ⟨s, hrun, .refl, rfl⟩
  · cases hmove with
    | emptyRegion hcover hguard =>
        refine ⟨_, ⟨_, _, hcover.1, rfl⟩, ?_⟩
        refine h.unguarded_emptyRegion ?_ (hstop hcover.1 hguard.1) hguard.2
        intro hbelow
        have hdepth := hlayers.depth_pop hcover.1
        rw [Stack.pop, hbelow] at hdepth
        exact absurd hdepth (Nat.succ_ne_self _)

/-- Where a scan gives up the rest of its text because a rule has matched the empty text, or because
the innermost rule would end where it was entered, the step without this guard leads back to a state
in which the scan was before.  Whatever steps follow lead to such states as well, none of them
further into the text, and there is always one more to follow. -/
theorem Reachable.given_up_stands_still (hengine : engine.SearchesForward)
    (hloaded : g.Loaded engine) (hstate : g.Reachable engine state)
    (hbegins : g.Begins engine bound line state (depth + 1) text start)
    (hrun : Relation.ReflTransGen (g.GoesOn engine (g.scan engine depth) text) start s)
    {reason : Halt} (hhalt : g.step engine (g.scan engine depth) text s = .ok (.halt reason s'))
    (hreason : reason = .emptyMatch ∨ reason = .emptyRegion) :
    (∃ back, g.Passes engine text s.toState back ∧
      g.HasBeenIn engine (g.scan engine depth) text start s back) ∧
    ∀ further, Relation.ReflTransGen (g.Passes engine text) s.toState further →
      g.HasBeenIn engine (g.scan engine depth) text start s further ∧
        further.point.pos ≤ s.point.pos ∧ ∃ next, g.Passes engine text further next := by
  have hvisits := visits_iff_exists_begins.2 ⟨start, hbegins, hrun⟩
  have hretraceable := hbegins.retraceable_of_run hengine hrun
  obtain ⟨back, hpasses, hback⟩ := hretraceable.back hengine (hvisits.layers hloaded hstate) hrun
    (step_move hhalt) hreason
  refine ⟨⟨back, hpasses, hback⟩, fun further hfurther => ?_⟩
  have hbeen := hasBeenIn_of_return hrun hpasses hback hfurther
  exact ⟨hbeen, hbeen.pos_le hengine, hbeen.exists_passes ⟨back, hpasses⟩⟩

end Grammar

/-! ## A region without a text -/

namespace Sample

/-- One rule matches `a`; the other one begins and ends with the empty text. -/
def hollowDocument : Document :=
  { Document.blank with patterns := [
    { Entry.blank with matchSource := some "a" },
    { Entry.blank with beginSource := some "", endSource := some "" }] }

/-- The grammar that is read from the document. -/
def hollowGrammar : Grammar (List Char) where
  scopeName := "s"
  rules := #[⟨none, none, .container [1, 2]⟩,
    ⟨none, none, .single (pattern "a") []⟩,
    ⟨none, none, .region (pattern "") [] (pattern "") [] false []⟩]
  root := 0
  entries := #[[1, 2], [], []]

theorem hollowGrammar_loaded : hollowGrammar.Loaded .literal := by
  refine ⟨.ofDocuments [("s", hollowDocument)], "s", ?_⟩
  cbv

/-- The scan of the line `ab` where it starts. -/
def hollowStart : Scan (List Char) := ⟨⟨0, none, true⟩, Stack.root 0 "s", .none⟩

/-- The scan behind the `a`, with the second rule open. -/
def inHollow : Scan (List Char) :=
  ⟨⟨1, some 1, false⟩,
    (Stack.root 0 "s").push ⟨2, some 1, none, false, ["s"], ["s"], none⟩, ⟨[⟨0, 1, ["s"]⟩], 1⟩⟩

theorem hollow_run :
    Relation.ReflTransGen
      (hollowGrammar.GoesOn .literal (hollowGrammar.scan .literal 1) (lineText "ab"))
      hollowStart inHollow := by
  have hsingle : hollowGrammar.GoesOn .literal (hollowGrammar.scan .literal 1) (lineText "ab")
      hollowStart ⟨⟨1, none, false⟩, Stack.root 0 "s", ⟨[⟨0, 1, ["s"]⟩], 1⟩⟩ := by
    rfl
  have henter : hollowGrammar.GoesOn .literal (hollowGrammar.scan .literal 1) (lineText "ab")
      ⟨⟨1, none, false⟩, Stack.root 0 "s", ⟨[⟨0, 1, ["s"]⟩], 1⟩⟩ inHollow := by
    rfl
  exact .tail (.single hsingle) henter

end Sample

namespace Grammar

/-- The second rule would end where it was entered, behind the `a`. -/
theorem Reachable.sample_given_up_stands_still :
    RegexEngine.literal.SearchesForward ∧ Sample.hollowGrammar.Loaded .literal ∧
    Sample.hollowGrammar.Reachable .literal .initial ∧
    Sample.hollowGrammar.Begins .literal 2 (lineText "ab") .initial 2 (lineText "ab")
      Sample.hollowStart ∧
    Relation.ReflTransGen (Sample.hollowGrammar.GoesOn .literal
      (Sample.hollowGrammar.scan .literal 1) (lineText "ab")) Sample.hollowStart Sample.inHollow ∧
    ∃ s', Sample.hollowGrammar.step .literal (Sample.hollowGrammar.scan .literal 1) (lineText "ab")
        Sample.inHollow = .ok (.halt .emptyRegion s') ∧
      (∃ back, Sample.hollowGrammar.Passes .literal (lineText "ab") Sample.inHollow.toState back ∧
        Sample.hollowGrammar.HasBeenIn .literal (Sample.hollowGrammar.scan .literal 1)
          (lineText "ab") Sample.hollowStart Sample.inHollow back) ∧
      ∀ further, Relation.ReflTransGen (Sample.hollowGrammar.Passes .literal (lineText "ab"))
          Sample.inHollow.toState further →
        Sample.hollowGrammar.HasBeenIn .literal (Sample.hollowGrammar.scan .literal 1)
            (lineText "ab") Sample.hollowStart Sample.inHollow further ∧
          further.point.pos ≤ 1 ∧
          ∃ next, Sample.hollowGrammar.Passes .literal (lineText "ab") further next := by
  have hengine := RegexEngine.literal_staysInside.searchesForward
  have hbegins : Sample.hollowGrammar.Begins .literal 2 (lineText "ab") .initial 2 (lineText "ab")
      Sample.hollowStart := .line rfl
  have hhalt : Sample.hollowGrammar.step .literal (Sample.hollowGrammar.scan .literal 1)
      (lineText "ab") Sample.inHollow = .ok (.halt .emptyRegion
        ⟨⟨1, some 1, false⟩, Sample.inHollow.stack, ⟨[⟨1, 3, ["s"]⟩, ⟨0, 1, ["s"]⟩], 3⟩⟩) := by
    rfl
  exact ⟨hengine, Sample.hollowGrammar_loaded, .initial, hbegins, Sample.hollow_run, _, hhalt,
    Reachable.given_up_stands_still hengine Sample.hollowGrammar_loaded .initial hbegins
      Sample.hollow_run hhalt (Or.inr rfl)⟩

end Grammar

end ScopeCheck
