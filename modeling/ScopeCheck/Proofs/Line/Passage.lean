import ScopeCheck.Proofs.Line.Move

/-!
# Passages

A line is read match by match.  A `Passage` is what one match contributes: the range of the match,
the scopes of the text in front of it and those of the match itself, and what the match does to the
open rules.

* `Grammar.conditionPassage` and `Grammar.passageOf` are the passages of the two kinds of matches,
  those of conditions of open rules and those of the scan that follows;
* `Grammar.Move.passage`: a step that goes on moves behind the match of its passage and gives scopes
  to the text up to there.
-/

namespace ScopeCheck

variable {ρ : Type}

/-- What a match does to the open rules. -/
inductive Role
  /-- The condition of an open rule matches, and the rule goes on. -/
  | goesOn
  /-- A rule without a region matches. -/
  | single
  /-- A rule is entered. -/
  | enters
  /-- The innermost rule is left. -/
  | leaves
  deriving DecidableEq, Repr

/-- What a match contributes to the reading of a line. -/
structure Passage where
  role : Role
  /-- The range of the match. -/
  span : Span
  /-- The scopes of the text in front of the match. -/
  outside : List String
  /-- The scopes of the match. -/
  inside : List String
  deriving DecidableEq, Repr

/-- The point behind a match after which patterns may ask for its end. -/
def ScanPoint.behind (point : ScanPoint) (found : Found) : ScanPoint :=
  { point with anchor := some found.whole.stop }.moveTo found.whole.stop

namespace Grammar

/-- The condition of a frame has matched. -/
def conditionPassage (frame : Frame ρ) (found : Found) : Passage :=
  ⟨.goesOn, found.whole, frame.bodyScopes, frame.bodyScopes⟩

/-- A step has matched what is tried in the innermost frame. -/
def passageOf (g : Grammar ρ) (text : Array Char) (stack : Stack ρ) :
    Candidate → Found → Passage
  | .last, found => ⟨.leaves, found.whole, stack.bodyScopes, stack.top.matchScopes⟩
  | .rule id, found =>
    ⟨if (g.rule id).closing?.isSome then .enters else .single, found.whole, stack.bodyScopes,
      g.matchScopes text id found stack⟩

@[simp] theorem span_passageOf (g : Grammar ρ) (text : Array Char) (stack : Stack ρ)
    (candidate : Candidate) (found : Found) :
    (g.passageOf text stack candidate found).span = found.whole := by
  cases candidate <;> rfl

variable {engine : RegexEngine ρ} {g : Grammar ρ} {scanner : Scanner ρ} {text : Array Char}
  {s s' : Scan ρ} {candidate : Candidate} {found : Found}

/-- A step that goes on has matched something. -/
theorem Move.exists_next (hmove : g.Move engine scanner text s (.next s')) :
    ∃ candidate found, g.next engine text s.point s.stack.top = .ok (some (candidate, found)) := by
  cases hmove with
  | leave hcover => exact ⟨_, _, hcover.1⟩
  | single _ hcover => exact ⟨_, _, hcover.1⟩
  | enter _ hcover => exact ⟨_, _, hcover.1⟩

/-- Where a step goes on, and what has got its scopes by then. -/
structure GoesBehind (g : Grammar ρ) (scanner : Scanner ρ) (text : Array Char)
    (s : Scan ρ) (candidate : Candidate) (found : Found) (s' : Scan ρ) : Prop where
  pos_eq : s'.point.pos = found.whole.stop
  atTextStart_eq : s'.point.atTextStart =
    (s.point.atTextStart && decide (found.whole.stop ≤ s.point.pos))
  covers : Covers scanner text s.point.atTextStart (g.passageOf text s.stack candidate found).inside
    (g.capturesOf s.stack candidate) found
    (s.emitted.upTo (g.passageOf text s.stack candidate found).outside found.whole.start) s'.emitted

theorem Move.passage (hmove : g.Move engine scanner text s (.next s'))
    (hnext : g.next engine text s.point s.stack.top = .ok (some (candidate, found))) :
    g.GoesBehind scanner text s candidate found s' := by
  cases hmove with
  | leave hcover =>
      obtain ⟨rfl, rfl⟩ := Prod.mk.inj (Option.some.inj (Except.ok.inj (hnext.symm.trans hcover.1)))
      refine ⟨rfl, ?_, hcover.2⟩
      -- Leaving a rule may change the anchor of the point, but not its flag.
      show ((pointBehind s).atTextStart && decide (_ ≤ (pointBehind s).pos)) = _
      unfold pointBehind
      split <;> rfl
  | single _ hcover =>
      obtain ⟨rfl, rfl⟩ := Prod.mk.inj (Option.some.inj (Except.ok.inj (hnext.symm.trans hcover.1)))
      exact ⟨rfl, rfl, hcover.2⟩
  | enter _ hcover =>
      obtain ⟨rfl, rfl⟩ := Prod.mk.inj (Option.some.inj (Except.ok.inj (hnext.symm.trans hcover.1)))
      exact ⟨rfl, rfl, hcover.2⟩

end Grammar

end ScopeCheck
