import ScopeCheck.Line.Tokenize
import ScopeCheck.Proofs.Line.Passage

/-!
# Where the scan of a line starts

Before a line is scanned the conditions of its open rules are checked, the outermost first.
`Grammar.lineStart` is the scan behind these checks; `Grammar.scanLine_eq` says that a line is
scanned from there.

* `Grammar.ConditionsHold` and `Grammar.Lapses` say which conditions match and which one does not,
  and `Grammar.checkConditions_eq_ok` reads them off the checks;
* `Grammar.lineStart_frames`: no frame is changed, the innermost ones may be dropped;
* `Grammar.ConditionInvariant` says that a property is kept by each check, and
  `ConditionInvariant.lineStart` concludes that it holds behind all of them, with the passages of
  the conditions that have matched, `Grammar.linePassages`;
* `Grammar.Checking` follows the checks one by one;
* `Starts.ofLineStart_at`: the scans that are started are those of groups of what a condition has
  matched.
-/

namespace ScopeCheck

variable {ρ : Type} {engine : RegexEngine ρ} {g : Grammar ρ} {scanner : Scanner ρ}
  {text : Array Char} {state : LineState ρ} {s : Scan ρ}

namespace Grammar

/-- The scan of a line behind the conditions of the open rules. -/
def lineStart (engine : RegexEngine ρ) (g : Grammar ρ) (scanner : Scanner ρ) (text : Array Char)
    (state : LineState ρ) : Except ScanError (Scan ρ) :=
  let stack := g.lineStack state
  let outermost := stack.frames.reverse
  g.checkConditions engine scanner text (outermost.headD stack.top) [] outermost
    (startPoint state stack) .none

theorem scanLine_eq : g.scanLine engine text state =
    match g.lineStart engine (g.scan engine (g.nestingBound text)) text state with
    | .error e => .error e
    | .ok s => g.scan engine (g.nestingBound text) text s := rfl

/-- The captures of a condition are among those at the end of its rule. -/
theorem condition?_captures {frame : Frame ρ} {pattern : Pattern ρ} {captures : GroupRules}
    (h : g.condition? frame = some (pattern, captures)) :
    captures = (g.rule frame.rule).closingCaptures := by
  unfold condition? at h
  split at h
  · rename_i hform
    rw [Rule.closingCaptures, hform]
    exact (Prod.mk.inj (Option.some.inj h)).2.symm
  · cases h

/-- The conditions of these frames, the outermost first, match one after the other: each is searched
for where the one before it has ended, and its match is given its scopes. -/
inductive ConditionsHold (engine : RegexEngine ρ) (g : Grammar ρ) (scanner : Scanner ρ)
    (text : Array Char) :
    List (Frame ρ) → List Found → ScanPoint → Emitted → ScanPoint → Emitted → Prop
  | nil {point : ScanPoint} {out : Emitted} :
      ConditionsHold engine g scanner text [] [] point out point out
  | skip {frame : Frame ρ} {inner : List (Frame ρ)} {taken : List Found} {point last : ScanPoint}
      {out final : Emitted} (hcondition : g.condition? frame = none)
      (hinner : ConditionsHold engine g scanner text inner taken point out last final) :
      ConditionsHold engine g scanner text (frame :: inner) taken point out last final
  | holds {frame : Frame ρ} {inner : List (Frame ρ)} {pattern : Pattern ρ} {captures : GroupRules}
      {found : Found} {taken : List Found} {point last : ScanPoint} {before after final : Emitted}
      (hcondition : g.condition? frame = some (pattern, captures))
      (hfound : pattern.search engine (point.query text) = .ok (some found))
      (hcover : Covers scanner text point.atTextStart frame.bodyScopes captures found
        (before.upTo frame.bodyScopes found.whole.start) after)
      (hinner : ConditionsHold engine g scanner text inner taken (point.behind found) after last
        final) :
      ConditionsHold engine g scanner text (frame :: inner) (found :: taken) point before last final

/-- The condition of a frame does not match from a point on. -/
def Lapses (engine : RegexEngine ρ) (g : Grammar ρ) (text : Array Char) (frame : Frame ρ)
    (point : ScanPoint) : Prop :=
  ∃ pattern captures, g.condition? frame = some (pattern, captures) ∧
    pattern.search engine (point.query text) = .ok none

/-- The checks pass the frames whose conditions hold, up to the first one that lapses. -/
theorem checkConditions_eq_ok {bottom : Frame ρ} {kept inner : List (Frame ρ)}
    {point : ScanPoint} {out : Emitted}
    (h : g.checkConditions engine scanner text bottom kept inner point out = .ok s) :
    ∃ passed taken left, inner = passed ++ left ∧
      g.ConditionsHold engine scanner text passed taken point out s.point s.emitted ∧
      s.stack = stackOf bottom (passed.reverse ++ kept) ∧
      ∀ frame ∈ left.head?, g.Lapses engine text frame s.point := by
  induction inner generalizing kept point out with
  | nil =>
      obtain rfl := Except.ok.inj h
      refine ⟨[], [], [], rfl, .nil, rfl, fun frame hframe => ?_⟩
      cases hframe
  | cons frame inner ih =>
      have hstackOf : ∀ passed, stackOf bottom (passed.reverse ++ frame :: kept) =
          stackOf bottom ((frame :: passed).reverse ++ kept) := by
        intro passed
        rw [List.reverse_cons, List.append_assoc, List.singleton_append]
      rw [checkConditions] at h
      split at h
      · rename_i hcondition
        obtain ⟨passed, taken, left, rfl, hhold, hstack, hlapses⟩ := ih h
        exact ⟨frame :: passed, taken, left, rfl, .skip hcondition hhold,
          hstack.trans (hstackOf passed), hlapses⟩
      · rename_i pattern captures hcondition
        split at h
        · cases h
        · rename_i hnone
          obtain rfl := Except.ok.inj h
          refine ⟨[], [], frame :: inner, rfl, .nil, rfl, fun _ hframe => ?_⟩
          obtain rfl := Option.some.inj hframe
          exact ⟨pattern, captures, hcondition, hnone⟩
        · rename_i found hfound
          simp only at h
          split at h
          · cases h
          · rename_i covered hcovered
            obtain ⟨passed, taken, left, rfl, hhold, hstack, hlapses⟩ := ih h
            exact ⟨frame :: passed, found :: taken, left, rfl,
              .holds hcondition hfound ⟨covered, hcovered, rfl⟩ hhold,
              hstack.trans (hstackOf passed), hlapses⟩

/-- The frames that go on are the first ones that are checked. -/
theorem checkConditions_stack {bottom : Frame ρ} {kept inner : List (Frame ρ)}
    {point : ScanPoint} {out : Emitted}
    (h : g.checkConditions engine scanner text bottom kept inner point out = .ok s) :
    ∃ passed left, inner = passed ++ left ∧ s.stack = stackOf bottom (passed.reverse ++ kept) := by
  obtain ⟨passed, _, left, hinner, _, hstack, _⟩ := checkConditions_eq_ok h
  exact ⟨passed, left, hinner, hstack⟩

/-- The frames at the start of a line are those of the stack, without some of the innermost. -/
theorem lineStart_frames (h : g.lineStart engine scanner text state = .ok s) :
    s.stack.frames <:+ (g.lineStack state).frames := by
  obtain ⟨passed, left, hframes, hstack⟩ := checkConditions_stack h
  have hinside : (g.lineStack state).frames = left.reverse ++ passed.reverse := by
    rw [← List.reverse_append, ← hframes, List.reverse_reverse]
  rw [hstack, List.append_nil, hframes]
  cases hpassed : passed.reverse with
  | cons top below =>
      rw [hinside, hpassed]
      exact List.suffix_append _ _
  | nil =>
      -- Without any frame that goes on the bottom one is left.
      rw [hpassed, List.append_nil] at hinside
      rw [List.reverse_eq_nil_iff.1 hpassed, List.nil_append]
      cases left with
      | nil => cases hinside
      | cons bottom rest =>
          rw [hinside, List.reverse_cons]
          exact List.suffix_append _ _

/-- The passages of the conditions of frames, the outermost first, that are checked from a point
on. -/
def conditionPassages (engine : RegexEngine ρ) (g : Grammar ρ) (text : Array Char) :
    List (Frame ρ) → ScanPoint → List Passage
  | [], _ => []
  | frame :: inner, point =>
    match g.condition? frame with
    | none => conditionPassages engine g text inner point
    | some (pattern, _) =>
      match pattern.search engine (point.query text) with
      | .ok (some found) =>
        conditionPassage frame found :: conditionPassages engine g text inner (point.behind found)
      | _ => []

/-- The passages of the conditions that match where a line starts. -/
def linePassages (engine : RegexEngine ρ) (g : Grammar ρ) (text : Array Char)
    (state : LineState ρ) : List Passage :=
  g.conditionPassages engine text (g.lineStack state).frames.reverse
    (startPoint state (g.lineStack state))

/-- A property of the passages so far, the frames that are left, the point and the tokens, which the
checks of conditions keep. -/
structure ConditionInvariant (engine : RegexEngine ρ) (g : Grammar ρ) (scanner : Scanner ρ)
    (text : Array Char) (I : List Passage → List (Frame ρ) → ScanPoint → Emitted → Prop) :
    Prop where
  skip : ∀ past frame inner point out, g.condition? frame = none →
    I past (frame :: inner) point out → I past inner point out
  goesOn : ∀ past frame inner point pattern captures found before after,
    g.condition? frame = some (pattern, captures) →
    pattern.search engine (point.query text) = .ok (some found) →
    Covers scanner text point.atTextStart frame.bodyScopes captures found
      (before.upTo frame.bodyScopes found.whole.start) after →
    I past (frame :: inner) point before →
    I (past ++ [conditionPassage frame found]) inner (point.behind found) after

section

variable {I : List Passage → List (Frame ρ) → ScanPoint → Emitted → Prop}
  (hI : g.ConditionInvariant engine scanner text I)

include hI

theorem ConditionInvariant.check {bottom : Frame ρ} {kept inner : List (Frame ρ)}
    {past : List Passage} {point : ScanPoint} {out : Emitted} (hbefore : I past inner point out)
    (h : g.checkConditions engine scanner text bottom kept inner point out = .ok s) :
    ∃ left, I (past ++ g.conditionPassages engine text inner point) left s.point s.emitted := by
  induction inner generalizing kept past point out with
  | nil =>
      obtain rfl := Except.ok.inj h
      rw [conditionPassages, List.append_nil]
      exact ⟨[], hbefore⟩
  | cons frame inner ih =>
      cases hcondition : g.condition? frame with
      | none =>
          simp only [checkConditions, hcondition] at h
          simp only [conditionPassages, hcondition]
          exact ih (hI.skip _ _ _ _ _ hcondition hbefore) h
      | some condition =>
          obtain ⟨pattern, captures⟩ := condition
          cases hsearch : pattern.search engine (point.query text) with
          | error e => simp only [checkConditions, hcondition, hsearch, reduceCtorEq] at h
          | ok result =>
              cases result with
              | none =>
                  simp only [checkConditions, hcondition, hsearch] at h
                  obtain rfl := Except.ok.inj h
                  simp only [conditionPassages, hcondition, hsearch, List.append_nil]
                  exact ⟨frame :: inner, hbefore⟩
              | some found =>
                  simp only [checkConditions, hcondition, hsearch] at h
                  simp only [conditionPassages, hcondition, hsearch]
                  rw [← List.singleton_append, ← List.append_assoc]
                  split at h
                  · cases h
                  · rename_i covered hcovered
                    exact ih (hI.goesOn _ _ _ _ _ _ _ _ _ hcondition hsearch
                      ⟨covered, hcovered, rfl⟩ hbefore) h

/-- What the checks keep holds where the scan of the line starts, with the passages of all
conditions that have matched. -/
theorem ConditionInvariant.lineStart
    (hbefore : I [] (g.lineStack state).frames.reverse (startPoint state (g.lineStack state)) .none)
    (h : g.lineStart engine scanner text state = .ok s) :
    ∃ left, I (g.linePassages engine text state) left s.point s.emitted :=
  hI.check hbefore h

end

/-- What the covering of each matched condition keeps, all of them keep. -/
theorem lineStart_preserves {P : Emitted → Prop}
    (hcover : ∀ frame ∈ (g.lineStack state).frames,
      ∀ pattern captures (point : ScanPoint) found before after,
      g.condition? frame = some (pattern, captures) →
      pattern.search engine (point.query text) = .ok (some found) →
      Covers scanner text point.atTextStart frame.bodyScopes captures found
        (before.upTo frame.bodyScopes found.whole.start) after → P before → P after)
    (h : g.lineStart engine scanner text state = .ok s) (hnone : P .none) : P s.emitted := by
  -- The frames that are left are among those of the stack.
  have hkept : g.ConditionInvariant engine scanner text fun _ left _ out =>
      left ⊆ (g.lineStack state).frames.reverse ∧ P out := by
    constructor
    · intro past frame inner point out _ hout
      exact ⟨fun f hf => hout.1 (List.mem_cons_of_mem frame hf), hout.2⟩
    · intro past frame inner point pattern captures found before after hcondition hsearch hcovers
        hbefore
      have hframe := List.mem_reverse.1 (hbefore.1 List.mem_cons_self)
      exact ⟨fun f hf => hbefore.1 (List.mem_cons_of_mem frame hf),
        hcover frame hframe pattern captures point found before after hcondition hsearch hcovers
          hbefore.2⟩
  obtain ⟨_, _, hout⟩ := hkept.lineStart ⟨List.Subset.refl _, hnone⟩ h
  exact hout

/-- The conditions that are still to be checked, with the point at which the next one is searched
for and the passages of those that have matched. -/
inductive Checking (engine : RegexEngine ρ) (g : Grammar ρ) (text : Array Char)
    (state : LineState ρ) : List Passage → List (Frame ρ) → ScanPoint → Prop
  | start : Checking engine g text state [] (g.lineStack state).frames.reverse
      (startPoint state (g.lineStack state))
  | skip {past : List Passage} {frame : Frame ρ} {inner : List (Frame ρ)} {point : ScanPoint}
      (hchecking : Checking engine g text state past (frame :: inner) point)
      (hcondition : g.condition? frame = none) : Checking engine g text state past inner point
  | goesOn {past : List Passage} {frame : Frame ρ} {inner : List (Frame ρ)} {point : ScanPoint}
      {pattern : Pattern ρ} {captures : GroupRules} {found : Found}
      (hchecking : Checking engine g text state past (frame :: inner) point)
      (hcondition : g.condition? frame = some (pattern, captures))
      (hfound : pattern.search engine (point.query text) = .ok (some found)) :
      Checking engine g text state (past ++ [conditionPassage frame found]) inner
        (point.behind found)

/-- The frames whose conditions are left are inner ones. -/
theorem Checking.suffix {past : List Passage} {inner : List (Frame ρ)} {point : ScanPoint}
    (h : g.Checking engine text state past inner point) :
    inner <:+ (g.lineStack state).frames.reverse := by
  induction h with
  | start => exact List.suffix_refl _
  | skip _ _ ih => exact (List.suffix_cons _ _).trans ih
  | goesOn _ _ _ ih => exact (List.suffix_cons _ _).trans ih

theorem checking_invariant : g.ConditionInvariant engine scanner text
    fun past left point _ => g.Checking engine text state past left point where
  skip := fun _ _ _ _ _ hcondition hbefore => hbefore.skip hcondition
  goesOn := fun _ _ _ _ _ _ _ _ _ hcondition hsearch _ hbefore =>
    hbefore.goesOn hcondition hsearch

/-- The checks end where the scan of the line starts, after all passages of conditions. -/
theorem lineStart_checking (h : g.lineStart engine scanner text state = .ok s) :
    ∃ left, g.Checking engine text state (g.linePassages engine text state) left s.point :=
  checking_invariant.lineStart .start h

end Grammar

/-- A condition of these frames has matched in a text. -/
def Grammar.MatchesCondition (engine : RegexEngine ρ) (g : Grammar ρ) (frames : List (Frame ρ))
    (text : Array Char) (captures : GroupRules) (found : Found) : Prop :=
  ∃ frame ∈ frames, ∃ (pattern : Pattern ρ) (point : ScanPoint),
    g.condition? frame = some (pattern, captures) ∧
      pattern.search engine (point.query text) = .ok (some found)

/-- The conditions of open rules start scans of the texts of groups of what they match. -/
theorem Starts.ofConditions {bottom : Frame ρ} {kept inner : List (Frame ρ)} {past : List Passage}
    {point : ScanPoint} {out : Emitted} {inside : Array Char} {s' : Scan ρ}
    (hchecking : g.Checking engine text state past inner point)
    (h : Starts (fun scanner => g.checkConditions engine scanner text bottom kept inner point out)
      scanner inside s') :
    ∃ past frame inner point pattern captures found,
      g.Checking engine text state past (frame :: inner) point ∧
        g.condition? frame = some (pattern, captures) ∧
          pattern.search engine (point.query text) = .ok (some found) ∧
            ScansGroupAt point.atTextStart found captures text inside s' := by
  induction inner generalizing past kept point out with
  | nil => exact absurd h (not_starts_of_eq fun _ => rfl)
  | cons frame inner ih =>
      simp only [Grammar.checkConditions] at h
      split at h
      · rename_i hcondition
        exact ih (hchecking.skip hcondition) h
      · rename_i pattern captures hcondition
        split at h
        · exact absurd h (not_starts_of_eq fun _ => rfl)
        · exact absurd h (not_starts_of_eq fun _ => rfl)
        · rename_i found hfound
          have hcaptures := captureScopes_failingAt scanner text point.atTextStart frame.bodyScopes
            found captures [] (out.upTo frame.bodyScopes found.whole.start) inside s'
          rcases hcaptures with hgroup | hsame
          · exact ⟨past, frame, inner, point, pattern, captures, found, hchecking, hcondition,
              hfound, hgroup⟩
          · -- The captures go on as they did, so the scan is started by a later condition.
            simp only [Starts, hsame] at h
            split at h
            · rename_i own _
              have hown : Starts (fun _ : Scanner ρ => (.error own : Except _ (Scan ρ))) scanner
                  inside s' := h
              exact absurd hown (not_starts_of_eq fun _ => rfl)
            · exact ih (hchecking.goesOn hcondition hfound) h

theorem Starts.ofLineStart_at {inside : Array Char} {s' : Scan ρ}
    (h : Starts (fun scanner => g.lineStart engine scanner text state) scanner inside s') :
    ∃ past frame inner point pattern captures found,
      g.Checking engine text state past (frame :: inner) point ∧
        g.condition? frame = some (pattern, captures) ∧
          pattern.search engine (point.query text) = .ok (some found) ∧
            ScansGroupAt point.atTextStart found captures text inside s' :=
  Starts.ofConditions .start h

theorem Starts.ofLineStart_found {inside : Array Char} {s' : Scan ρ}
    (h : Starts (fun scanner => g.lineStart engine scanner text state) scanner inside s') :
    ∃ captures found,
      g.MatchesCondition engine (g.lineStack state).frames.reverse text captures found ∧
        ScansGroupOf found captures text inside s' := by
  obtain ⟨past, frame, inner, point, pattern, captures, found, hchecking, hcondition, hfound,
    hgroup⟩ := h.ofLineStart_at
  have hmem : frame ∈ (g.lineStack state).frames.reverse :=
    hchecking.suffix.subset List.mem_cons_self
  exact ⟨captures, found, ⟨frame, hmem, pattern, point, hcondition, hfound⟩, hgroup.scansGroupOf⟩

theorem Starts.ofLineStart {inside : Array Char} {s' : Scan ρ}
    (h : Starts (fun scanner => g.lineStart engine scanner text state) scanner inside s') :
    ∃ id, ScansGroup (g.rule id).closingCaptures text inside s' := by
  obtain ⟨captures, found, ⟨frame, _, _, _, hcondition, _⟩, hgroup⟩ := h.ofLineStart_found
  exact ⟨frame.rule, Grammar.condition?_captures hcondition ▸ hgroup.scansGroup⟩

end ScopeCheck
