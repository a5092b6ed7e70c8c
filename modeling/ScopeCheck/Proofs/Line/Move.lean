import Mathlib.Logic.Relation
import ScopeCheck.Proofs.Engine
import ScopeCheck.Proofs.Line.Captures

/-!
# What a step of a scan can do

`Grammar.Move` lists all that one step can lead to, with the conditions under which it does:

* `noMatch`: nothing matches, the scan ends;
* `leave` and `emptyRegion`: the end of the innermost rule matches;
* `single` and `emptyMatch`: a rule without a region matches;
* `enter` and `entered`: a rule with a region starts to match;
* `container`: a rule that only stands for its patterns is never matched by a compiled grammar.

`Grammar.step_move` says that these are all, and every invariant is derived from it.
`Grammar.scan_relates` carries what steps keep to a whole scan, with the scans inside it.
-/

namespace ScopeCheck

variable {ρ : Type}

namespace Rule

/-- The pattern that ends a region, or under which it goes on. -/
def closing? (r : Rule ρ) : Option (Pattern ρ) :=
  match r.form with
  | .region _ _ last _ _ _ => some last
  | .during _ _ condition _ _ => some condition
  | _ => none

/-- The captures of the match with which a rule starts. -/
def entryCaptures (r : Rule ρ) : GroupRules :=
  match r.form with
  | .single _ captures => captures
  | .region _ captures _ _ _ _ => captures
  | .during _ captures _ _ _ => captures
  | .container _ => []

/-- The captures of the pattern that ends a region, or under which it goes on. -/
def closingCaptures (r : Rule ρ) : GroupRules :=
  match r.form with
  | .region _ _ _ captures _ _ => captures
  | .during _ _ _ captures _ => captures
  | _ => []

end Rule

/-- The scan behind a step. -/
def ScanStep.scan : ScanStep ρ → Scan ρ
  | next s => s
  | halt _ s => s

@[simp] theorem ScanStep.scan_next (s : Scan ρ) : (ScanStep.next s).scan = s := rfl

@[simp] theorem ScanStep.scan_halt (reason : Halt) (s : Scan ρ) :
    (ScanStep.halt reason s).scan = s := rfl

namespace Grammar

/-- The scopes of what a rule matches. -/
def matchScopes (g : Grammar ρ) (text : Array Char) (id : RuleIndex) (found : Found)
    (stack : Stack ρ) : List String :=
  withName stack.bodyScopes ((g.rule id).name.map fun t => t.fill text found)

/-- The frame of a rule that is entered. -/
def frameOf (engine : RegexEngine ρ) (g : Grammar ρ) (text : Array Char) (id : RuleIndex)
    (closing : Pattern ρ) (found : Found) (s : Scan ρ) : Frame ρ :=
  let matchScopes := g.matchScopes text id found s.stack
  ⟨id, some s.point.pos, s.point.anchor, found.whole.stop = text.size, matchScopes,
    withName matchScopes ((g.rule id).contentName.map fun t => t.fill text found),
    filledLast engine closing text found⟩

/-- The point at which a scan goes on when the innermost rule has been left. -/
def pointBehind (s : Scan ρ) : ScanPoint :=
  if s.stack.canPop then { s.point with anchor := s.stack.top.anchor } else s.point

section

variable (engine : RegexEngine ρ) (g : Grammar ρ) (scanner : Scanner ρ) (text : Array Char)
  (s : Scan ρ)

/-- The match of an end has been given its scopes, and the text before it those of plain text. -/
def CoversEnd (found : Found) (out : Emitted) : Prop :=
  g.next engine text s.point s.stack.top = .ok (some (.last, found)) ∧
    Covers scanner text s.point.atTextStart s.stack.top.matchScopes
      (g.lastCaptures s.stack.top.rule) found
      (s.emitted.upTo s.stack.top.bodyScopes found.whole.start) out

/-- The match of a rule has been given its scopes, and the text before it those of plain text. -/
def CoversRule (id : RuleIndex) (found : Found) (out : Emitted) : Prop :=
  g.next engine text s.point s.stack.top = .ok (some (.rule id, found)) ∧
    Covers scanner text s.point.atTextStart (g.matchScopes text id found s.stack)
      (g.rule id).entryCaptures found (s.emitted.upTo s.stack.bodyScopes found.whole.start) out

/-- What a step can lead to. -/
inductive Move : ScanStep ρ → Prop
  | noMatch (hnext : g.next engine text s.point s.stack.top = .ok none) :
      Move (.halt .noMatch (s.upTo s.stack.bodyScopes text.size))
  | leave {found : Found} {out : Emitted} (hcover : g.CoversEnd engine scanner text s found out)
      (hguard : s.point.pos < found.whole.stop ∨ s.stack.top.openedAt ≠ some s.point.pos) :
      Move (.next ⟨(pointBehind s).moveTo found.whole.stop, s.stack.pop, out⟩)
  | emptyRegion {found : Found} {out : Emitted}
      (hcover : g.CoversEnd engine scanner text s found out)
      (hguard : found.whole.stop ≤ s.point.pos ∧ s.stack.top.openedAt = some s.point.pos) :
      Move (.halt .emptyRegion ⟨s.point, s.stack, out.upTo s.stack.top.bodyScopes text.size⟩)
  | single {id : RuleIndex} {found : Found} {out : Emitted} {pattern : Pattern ρ}
      {captures : GroupRules} (hform : (g.rule id).form = .single pattern captures)
      (hcover : g.CoversRule engine scanner text s id found out)
      (hguard : s.point.pos < found.whole.stop) :
      Move (.next ⟨s.point.moveTo found.whole.stop, s.stack, out⟩)
  | emptyMatch {id : RuleIndex} {found : Found} {out : Emitted} {pattern : Pattern ρ}
      {captures : GroupRules} (hform : (g.rule id).form = .single pattern captures)
      (hcover : g.CoversRule engine scanner text s id found out)
      (hguard : found.whole.stop ≤ s.point.pos) :
      Move (.halt .emptyMatch
        ⟨s.point, s.stack.pop, out.upTo s.stack.pop.bodyScopes text.size⟩)
  | enter {id : RuleIndex} {found : Found} {out : Emitted} {closing : Pattern ρ}
      (hclosing : (g.rule id).closing? = some closing)
      (hcover : g.CoversRule engine scanner text s id found out)
      (hguard : s.point.pos < found.whole.stop ∨ s.stack.justOpened id s.point.pos = false) :
      Move (.next ⟨{ s.point with anchor := some found.whole.stop }.moveTo found.whole.stop,
        s.stack.push (g.frameOf engine text id closing found s), out⟩)
  | entered {id : RuleIndex} {found : Found} {out : Emitted} {closing : Pattern ρ}
      (hclosing : (g.rule id).closing? = some closing)
      (hcover : g.CoversRule engine scanner text s id found out)
      (hguard : found.whole.stop ≤ s.point.pos ∧ s.stack.justOpened id s.point.pos = true) :
      Move (.halt .entered ⟨s.point, s.stack, out.upTo s.stack.bodyScopes text.size⟩)
  | container {id : RuleIndex} {found : Found} {patterns : List RuleIndex}
      (hform : (g.rule id).form = .container patterns)
      (hnext : g.next engine text s.point s.stack.top = .ok (some (.rule id, found))) :
      Move (.halt .noMatch ((s.upTo s.stack.bodyScopes found.whole.start).upTo
        s.stack.bodyScopes text.size))

end

variable {engine : RegexEngine ρ} {g : Grammar ρ} {scanner : Scanner ρ} {text : Array Char}
  {s : Scan ρ}

/-- What is tried inside a frame are the starts of rules and the end of its own. -/
theorem mem_candidates {frame : Frame ρ} {candidate : Candidate} {pattern : Pattern ρ}
    (h : (candidate, pattern) ∈ g.candidates frame) :
    (∃ id ∈ g.entriesOf frame.rule, candidate = .rule id ∧
        (g.rule id).entryPattern? = some pattern) ∨
      candidate = .last ∧ ∃ closing, (g.rule frame.rule).closing? = some closing ∧
        pattern = frame.filledLast.getD closing := by
  have hstart : ∀ ids : List RuleIndex, (candidate, pattern) ∈
      ids.filterMap (fun id => ((g.rule id).entryPattern?).map fun p => (Candidate.rule id, p)) →
        ∃ id ∈ ids, candidate = .rule id ∧ (g.rule id).entryPattern? = some pattern := by
    intro ids hids
    obtain ⟨id, hid, hentry⟩ := List.mem_filterMap.1 hids
    obtain ⟨p, hp, heq⟩ := Option.map_eq_some_iff.1 hentry
    obtain ⟨hcandidate, hpattern⟩ := Prod.mk.inj heq
    exact ⟨id, hid, hcandidate.symm, hpattern ▸ hp⟩
  unfold candidates at h
  split at h
  · rename_i last _ lastIsTriedLast _ hform
    have hend : (candidate, pattern) = (Candidate.last, frame.filledLast.getD last) →
        candidate = .last ∧ ∃ closing, (g.rule frame.rule).closing? = some closing ∧
          pattern = frame.filledLast.getD closing := by
      intro heq
      obtain ⟨hcandidate, hpattern⟩ := Prod.mk.inj heq
      exact ⟨hcandidate, last, by rw [Rule.closing?, hform], hpattern⟩
    split at h
    · rcases List.mem_append.1 h with h | h
      · exact Or.inl (hstart _ h)
      · exact Or.inr (hend (List.mem_singleton.1 h))
    · rcases List.mem_cons.1 h with h | h
      · exact Or.inr (hend h)
      · exact Or.inl (hstart _ h)
  · exact Or.inl (hstart _ h)

/-- A rule that is tried inside a frame is one of those that may start there. -/
theorem mem_candidates_rule {frame : Frame ρ} {id : RuleIndex} {pattern : Pattern ρ}
    (h : (Candidate.rule id, pattern) ∈ g.candidates frame) :
    id ∈ g.entriesOf frame.rule ∧ (g.rule id).entryPattern? = some pattern := by
  rcases mem_candidates h with ⟨entry, hentry, hid, hpattern⟩ | ⟨hlast, _⟩
  · cases hid
    exact ⟨hentry, hpattern⟩
  · cases hlast

theorem coverMatch_eq_ok {base : List String} {captures : GroupRules} {found : Found}
    {before after : Scan ρ}
    (h : coverMatch scanner text base captures found before = .ok after) :
    ∃ out, Covers scanner text before.point.atTextStart base captures found before.emitted out ∧
      after = ⟨before.point, before.stack, out⟩ := by
  unfold coverMatch at h
  split at h
  · cases h
  · rename_i covered hcovered
    exact ⟨_, ⟨covered, hcovered, rfl⟩, (Except.ok.inj h).symm⟩

theorem stepLast_move {found : Found} {r : ScanStep ρ}
    (hnext : g.next engine text s.point s.stack.top = .ok (some (.last, found)))
    (h : g.stepLast scanner text found s = .ok r) : g.Move engine scanner text s r := by
  unfold stepLast at h
  simp only at h
  split at h
  · cases h
  · rename_i after hafter
    obtain ⟨out, hcover, hout⟩ := coverMatch_eq_ok hafter
    split at h
    · rename_i hguard
      rw [← Except.ok.inj h]
      subst hout
      exact .emptyRegion ⟨hnext, hcover⟩ hguard
    · rename_i hguard
      rw [← Except.ok.inj h]
      subst hout
      refine .leave ⟨hnext, hcover⟩ ?_
      rcases Nat.lt_or_ge s.point.pos found.whole.stop with hlt | hge
      · exact Or.inl hlt
      · exact Or.inr fun hopened => hguard ⟨hge, hopened⟩

theorem stepSingle_move {id : RuleIndex} {found : Found} {pattern : Pattern ρ}
    {captures : GroupRules} {r : ScanStep ρ}
    (hnext : g.next engine text s.point s.stack.top = .ok (some (.rule id, found)))
    (hform : (g.rule id).form = .single pattern captures)
    (h : stepSingle scanner text (g.matchScopes text id found s.stack) captures found
      (s.upTo s.stack.bodyScopes found.whole.start) = .ok r) :
    g.Move engine scanner text s r := by
  have hcaptures : captures = (g.rule id).entryCaptures := by rw [Rule.entryCaptures, hform]
  rw [hcaptures] at h
  unfold stepSingle at h
  split at h
  · cases h
  · rename_i after hafter
    obtain ⟨out, hcover, hout⟩ := coverMatch_eq_ok hafter
    split at h
    · rename_i hguard
      rw [← Except.ok.inj h]
      subst hout
      exact .emptyMatch hform ⟨hnext, hcover⟩ hguard
    · rename_i hguard
      rw [← Except.ok.inj h]
      subst hout
      exact .single hform ⟨hnext, hcover⟩ (Nat.lt_of_not_le hguard)

theorem stepEnter_move {id : RuleIndex} {found : Found} {closing : Pattern ρ} {r : ScanStep ρ}
    (hnext : g.next engine text s.point s.stack.top = .ok (some (.rule id, found)))
    (hclosing : (g.rule id).closing? = some closing)
    (h : stepEnter engine scanner text id (g.rule id) (g.matchScopes text id found s.stack)
      (g.rule id).entryCaptures closing found
      (s.upTo s.stack.bodyScopes found.whole.start) = .ok r) :
    g.Move engine scanner text s r := by
  unfold stepEnter at h
  split at h
  · cases h
  · rename_i after hafter
    obtain ⟨out, hcover, hout⟩ := coverMatch_eq_ok hafter
    simp only at h
    split at h
    · rename_i hguard
      rw [← Except.ok.inj h]
      subst hout
      exact .entered hclosing ⟨hnext, hcover⟩ hguard
    · rename_i hguard
      rw [← Except.ok.inj h]
      subst hout
      refine .enter hclosing ⟨hnext, hcover⟩ ?_
      rcases Nat.lt_or_ge s.point.pos found.whole.stop with hlt | hge
      · exact Or.inl hlt
      · exact Or.inr (Bool.eq_false_iff.2 fun hopened => hguard ⟨hge, hopened⟩)

/-- A step leads to nothing else. -/
theorem step_move {r : ScanStep ρ} (h : g.step engine scanner text s = .ok r) :
    g.Move engine scanner text s r := by
  unfold step at h
  split at h
  · cases h
  · rename_i hnext
    rw [← Except.ok.inj h]
    exact .noMatch hnext
  · rename_i found hnext
    exact stepLast_move hnext h
  · rename_i id found hnext
    unfold stepRule at h
    simp only at h
    split at h
    · rename_i pattern captures hform
      exact stepSingle_move hnext hform h
    · rename_i first captures last lastCaptures lastIsTriedLast patterns hform
      have hclosing : (g.rule id).closing? = some last := by rw [Rule.closing?, hform]
      refine stepEnter_move hnext hclosing ?_
      rw [Rule.entryCaptures, hform]
      exact h
    · rename_i first captures condition conditionCaptures patterns hform
      have hclosing : (g.rule id).closing? = some condition := by rw [Rule.closing?, hform]
      refine stepEnter_move hnext hclosing ?_
      rw [Rule.entryCaptures, hform]
      exact h
    · rename_i patterns hform
      rw [← Except.ok.inj h]
      exact .container hform hnext

/-! ## Scans that a step starts -/

theorem coverMatch_eq_error_iff {base : List String} {captures : GroupRules} {found : Found}
    {e : ScanError} : coverMatch scanner text base captures found s = .error e ↔
      captureScopes scanner text s.point.atTextStart base found captures [] s.emitted =
        .error e := by
  unfold coverMatch
  cases captureScopes scanner text s.point.atTextStart base found captures [] s.emitted <;> simp

theorem stepLast_eq_error_iff {found : Found} {e : ScanError} :
    g.stepLast scanner text found s = .error e ↔
      captureScopes scanner text s.point.atTextStart s.stack.top.matchScopes found
        (g.lastCaptures s.stack.top.rule) []
        (s.emitted.upTo s.stack.top.bodyScopes found.whole.start) = .error e := by
  refine Iff.trans ?_
    (coverMatch_eq_error_iff (s := s.upTo s.stack.top.bodyScopes found.whole.start))
  unfold stepLast
  dsimp only
  cases coverMatch scanner text s.stack.top.matchScopes (g.lastCaptures s.stack.top.rule) found
      (s.upTo s.stack.top.bodyScopes found.whole.start) with
  | error own => simp
  | ok after =>
      dsimp only
      split <;> simp

theorem stepSingle_eq_error_iff {matchScopes : List String} {captures : GroupRules} {found : Found}
    {e : ScanError} : stepSingle scanner text matchScopes captures found s = .error e ↔
      captureScopes scanner text s.point.atTextStart matchScopes found captures [] s.emitted =
        .error e := by
  refine Iff.trans ?_ coverMatch_eq_error_iff
  unfold stepSingle
  cases coverMatch scanner text matchScopes captures found s with
  | error own => simp
  | ok after =>
      dsimp only
      split <;> simp

theorem stepEnter_eq_error_iff {id : RuleIndex} {rule : Rule ρ} {matchScopes : List String}
    {captures : GroupRules} {closing : Pattern ρ} {found : Found} {e : ScanError} :
    stepEnter engine scanner text id rule matchScopes captures closing found s = .error e ↔
      captureScopes scanner text s.point.atTextStart matchScopes found captures [] s.emitted =
        .error e := by
  refine Iff.trans ?_ coverMatch_eq_error_iff
  unfold stepEnter
  cases coverMatch scanner text matchScopes captures found s with
  | error own => simp
  | ok after =>
      dsimp only
      split <;> simp

theorem stepRule_eq_error_iff {id : RuleIndex} {found : Found} {e : ScanError} :
    g.stepRule engine scanner text id found s = .error e ↔
      captureScopes scanner text s.point.atTextStart (g.matchScopes text id found s.stack) found
        (g.rule id).entryCaptures [] (s.emitted.upTo s.stack.bodyScopes found.whole.start) =
        .error e := by
  unfold stepRule
  dsimp only
  split
  · rename_i pattern captures hform
    rw [Rule.entryCaptures, hform]
    exact stepSingle_eq_error_iff
  · rename_i hform
    rw [Rule.entryCaptures, hform]
    exact stepEnter_eq_error_iff
  · rename_i hform
    rw [Rule.entryCaptures, hform]
    exact stepEnter_eq_error_iff
  · rename_i hform
    rw [Rule.entryCaptures, hform]
    exact iff_of_false nofun nofun

theorem lastCaptures_subset (id : RuleIndex) :
    g.lastCaptures id ⊆ (g.rule id).closingCaptures := by
  intro entry hentry
  unfold lastCaptures at hentry
  split at hentry
  · rename_i hform
    rw [Rule.closingCaptures, hform]
    exact hentry
  · cases hentry

/-! ## Whole scans -/

/-- A step that goes on. -/
def GoesOn (engine : RegexEngine ρ) (g : Grammar ρ) (scanner : Scanner ρ) (text : Array Char)
    (s s' : Scan ρ) : Prop :=
  g.step engine scanner text s = .ok (.next s')

theorem steps_eq_ok {fuel : Nat} {s' : Scan ρ}
    (h : g.steps engine scanner text fuel s = .ok s') :
    ∃ last reason, Relation.ReflTransGen (g.GoesOn engine scanner text) s last ∧
      g.step engine scanner text last = .ok (.halt reason s') := by
  induction fuel generalizing s with
  | zero => cases h
  | succ fuel ih =>
      rw [steps] at h
      split at h
      · cases h
      · rename_i next hnext
        obtain ⟨last, reason, hrun, hhalt⟩ := ih h
        exact ⟨last, reason, .head hnext hrun, hhalt⟩
      · rename_i reason last hhalt
        obtain rfl := Except.ok.inj h
        exact ⟨s, reason, .refl, hhalt⟩

/-- A scan with a result goes on step by step, up to one that ends it. -/
theorem scan_eq_ok {bound : Nat} {s' : Scan ρ} (h : g.scan engine bound text s = .ok s') :
    ∃ depth last reason, bound = depth + 1 ∧
      Relation.ReflTransGen (g.GoesOn engine (g.scan engine depth) text) s last ∧
      g.step engine (g.scan engine depth) text last = .ok (.halt reason s') := by
  cases bound with
  | zero => cases h
  | succ depth =>
      obtain ⟨last, reason, hrun, hhalt⟩ := steps_eq_ok h
      exact ⟨depth, last, reason, rfl, hrun, hhalt⟩

/-- What every step keeps and relates, a whole scan keeps and relates.  The induction is on how
deep scans may stand inside each other, and inside it on the number of steps. -/
theorem scan_relates (engine : RegexEngine ρ) (g : Grammar ρ) (I : Array Char → Scan ρ → Prop)
    (R : Array Char → Scan ρ → Scan ρ → Prop)
    (htrans : ∀ {text s t u}, R text s t → R text t u → R text s u)
    (hstep : ∀ {scanner : Scanner ρ} {text s r},
      (∀ {text s s'}, I text s → scanner text s = .ok s' → R text s s') →
      I text s → g.step engine scanner text s = .ok r → R text s r.scan ∧ I text r.scan)
    {depth : Nat} {s' : Scan ρ} (hs : I text s) (h : g.scan engine depth text s = .ok s') :
    R text s s' ∧ I text s' := by
  induction depth generalizing text s s' with
  | zero => cases h
  | succ depth ih =>
      have hinner : ∀ {text s s'}, I text s →
          (fun text s => g.scan engine depth text s) text s = .ok s' → R text s s' :=
        fun hs h => (ih hs h).1
      rw [scan] at h
      generalize g.stepBound text s = fuel at h
      induction fuel generalizing s with
      | zero => cases h
      | succ fuel ihfuel =>
          rw [steps] at h
          split at h
          · cases h
          · rename_i t hnext
            obtain ⟨hfirst, ht⟩ := hstep hinner hs hnext
            obtain ⟨hrest, hs'⟩ := ihfuel ht h
            exact ⟨htrans hfirst hrest, hs'⟩
          · rename_i reason t hhalt
            obtain rfl : t = s' := Except.ok.inj h
            exact hstep hinner hs hhalt

end Grammar

/-- The captures of what has been matched. -/
def Grammar.capturesOf (g : Grammar ρ) (stack : Stack ρ) : Candidate → GroupRules
  | .last => g.lastCaptures stack.top.rule
  | .rule id => (g.rule id).entryCaptures

/-- A step starts scans of the texts of groups of what it matches. -/
theorem Starts.ofStep_at {engine : RegexEngine ρ} {g : Grammar ρ} {scanner : Scanner ρ}
    {text inside : Array Char} {s s' : Scan ρ}
    (h : Starts (fun scanner => g.step engine scanner text s) scanner inside s') :
    ∃ candidate found, g.next engine text s.point s.stack.top = .ok (some (candidate, found)) ∧
      ScansGroupAt s.point.atTextStart found (g.capturesOf s.stack candidate) text inside s' := by
  simp only [Grammar.step] at h
  split at h
  · exact absurd h (not_starts_of_eq fun _ => rfl)
  · exact absurd h (not_starts_of_eq fun _ => rfl)
  · rename_i found hnext
    have hcaptures := h.mono fun scanner e => Grammar.stepLast_eq_error_iff.1
    exact ⟨.last, found, hnext, hcaptures.ofCaptures⟩
  · rename_i id found hnext
    have hcaptures := h.mono fun scanner e => Grammar.stepRule_eq_error_iff.1
    exact ⟨.rule id, found, hnext, hcaptures.ofCaptures⟩

theorem Grammar.capturesOf_subset (g : Grammar ρ) (stack : Stack ρ) (candidate : Candidate) :
    ∃ id, g.capturesOf stack candidate ⊆
      (g.rule id).entryCaptures ++ (g.rule id).closingCaptures := by
  cases candidate with
  | last => exact ⟨stack.top.rule, List.Subset.trans (Grammar.lastCaptures_subset _)
      (List.subset_append_right _ _)⟩
  | rule id => exact ⟨id, List.subset_append_left _ _⟩

/-- The captures with which a step starts scans are those of some rule. -/
theorem Starts.ofStep_found {engine : RegexEngine ρ} {g : Grammar ρ} {scanner : Scanner ρ}
    {text inside : Array Char} {s s' : Scan ρ}
    (h : Starts (fun scanner => g.step engine scanner text s) scanner inside s') :
    ∃ candidate found id, g.next engine text s.point s.stack.top = .ok (some (candidate, found)) ∧
      ScansGroupOf found ((g.rule id).entryCaptures ++ (g.rule id).closingCaptures) text inside
        s' := by
  obtain ⟨candidate, found, hnext, hgroup⟩ := h.ofStep_at
  obtain ⟨id, hsubset⟩ := g.capturesOf_subset s.stack candidate
  exact ⟨candidate, found, id, hnext, (hgroup.mono hsubset).scansGroupOf⟩

/-- A step starts scans of the texts of groups that have patterns. -/
theorem Starts.ofStep {engine : RegexEngine ρ} {g : Grammar ρ} {scanner : Scanner ρ}
    {text inside : Array Char} {s s' : Scan ρ}
    (h : Starts (fun scanner => g.step engine scanner text s) scanner inside s') :
    ∃ id, ScansGroup ((g.rule id).entryCaptures ++ (g.rule id).closingCaptures) text inside
      s' := by
  obtain ⟨_, _, id, _, hgroup⟩ := h.ofStep_found
  exact ⟨id, hgroup.scansGroup⟩

end ScopeCheck
