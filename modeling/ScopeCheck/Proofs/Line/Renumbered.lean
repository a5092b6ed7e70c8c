import ScopeCheck.Proofs.Line.Depth
import ScopeCheck.Proofs.Line.Failure

/-!
# Texts under different numbers

A grammar whose rules are numbered differently gives the same tokens.

* `Grammar.tokens`: the tokens of the lines of a text;
* `Grammar.scanLine_ne_stalled`: no line runs out of steps, so it does not matter that the grammars
  may have a different number of rules;
* `Grammar.Renames.scanLine_like`, `Grammar.Renames.tokenize_like`: a line comes to the same, and
  leaves states that are alike;
* `Grammar.Renames.tokens_eq`: all texts come to the same.
-/

namespace ScopeCheck

variable {ρ : Type} {engine : RegexEngine ρ} {g g' : Grammar ρ}
  {state state' : LineState ρ}

/-- The tokens of the lines of a text, if no line fails. -/
def Grammar.tokens (engine : RegexEngine ρ) (g : Grammar ρ) :
    LineState ρ → List String → Except GrammarError (List (List Token))
  | _, [] => .ok []
  | state, line :: lines =>
    match g.tokenize engine line state with
    | .error e => .error e
    | .ok result => (Grammar.tokens engine g result.state lines).map (result.tokens :: ·)

/-! ## Runs of a coherent grammar -/

/-- No line runs out of steps. -/
theorem Grammar.scanLine_ne_stalled (hengine : engine.SearchesForward) (hcoherent : g.Coherent)
    (hstate : g.Reachable engine state) (line : Array Char) :
    g.scanLine engine line state ≠ .error .stalled := by
  intro h
  have hfails : g.FailsBy engine (g.nestingBound line) line state .stalled := by
    rw [scanLine_eq] at h
    split at h
    · rename_i e hstart
      obtain rfl := Except.error.inj h
      exact lineStart_fails_by hstart
    · rename_i start hstart
      exact (Visits.line hstart).fails_by h
  cases hfails with
  | outOfSteps hvisits hsteps =>
      have hlayers := hvisits.keeps (layers_invariant hcoherent) hcoherent
        (fun _ base rule text found atTextStart start before hcontainer =>
          innerScan_layers hcontainer base rule text found atTextStart start before) hstate
      exact hsteps (ends_steps hengine hcoherent hlayers (potential_lt_stepBound _))

theorem Grammar.Reachable.selfLike (hclosed : g.Closed) (hstate : g.Reachable engine state) :
    state.Like g.Own True state := by
  have hkept := hstate.keeps (Grammar.rule_lt_invariant hclosed)
  cases state with
  | initial => exact .initial
  | inside stack =>
      have hframe : ∀ f ∈ stack.frames, f.Like g.Own True f := fun f hf =>
        ⟨⟨rfl, hkept stack rfl f hf⟩, rfl, rfl, rfl, rfl, fun _ => rfl, fun _ => rfl⟩
      exact .inside ⟨hframe _ List.mem_cons_self,
        List.forall₂_same.2 fun f hf => hframe f (List.mem_cons_of_mem _ hf)⟩

/-! ## Two grammars -/

/-- Two grammars that are made of rules with all that these refer to, and have the same rules under
different numbers. -/
structure Grammar.Renumbers (R : RuleIndex → RuleIndex → Prop) (g g' : Grammar ρ) : Prop where
  renames : g.Renames R g'
  coherent : g.Coherent
  coherent' : g'.Coherent
  closed : g.Closed
  closed' : g'.Closed

namespace Grammar.Renumbers

variable {R : RuleIndex → RuleIndex → Prop} (hengine : engine.StaysInside) (h : g.Renumbers R g')

include hengine h

theorem scan_like (line : Array Char) (depth : Nat) :
    Scanner.Like R True (· = .stalled) (· = .stalled) line (g.scan engine depth)
      (g'.scan engine depth) := by
  induction depth with
  | zero => exact fun _ _ _ _ _ _ _ => .same ScanError.endless
  | succ depth ih =>
      intro text htext s s' hs _ _
      exact Grammar.scan_like hengine h.renames ih (Or.inr ⟨rfl, rfl⟩) htext hs

/-- A line comes to the same in both grammars. -/
theorem scanLine_like (hreached : g.Reachable engine state) (hreached' : g'.Reachable engine state')
    (hstate : state.Like R True state') (line : Array Char) :
    SameCourse NoFailure NoFailure (Scan.Like R True) (g.scanLine engine line state)
      (g'.scanLine engine line state') := by
  have hends := scanLine_ne_stalled hengine.searchesForward h.coherent hreached line
  have hends' := scanLine_ne_stalled hengine.searchesForward h.coherent' hreached' line
  -- Both bounds are enough, so a common one is taken.
  let depth := max (g.nestingBound line) (g'.nestingBound line)
  have hcourse := scanLineWithin_like hengine h.renames (h.scan_like hengine line depth)
    (Or.inr ⟨rfl, rfl⟩) hstate
  rw [← scanLine_eq_of_le hengine h.closed (hreached.selfLike h.closed) (by omega),
    ← scanLine_eq_of_le hengine h.closed' (hreached'.selfLike h.closed') (by omega)] at hcourse
  generalize g.scanLine engine line state = x at hcourse hends ⊢
  generalize g'.scanLine engine line state' = y at hcourse hends' ⊢
  cases hcourse with
  | values hs => exact .values hs
  | same e => exact .same e
  | left h => exact absurd (congrArg Except.error h) hends
  | right h => exact absurd (congrArg Except.error h) hends'

/-- A line has the same tokens in both grammars. -/
theorem tokenize_like (hreached : g.Reachable engine state)
    (hreached' : g'.Reachable engine state') (hstate : state.Like R True state') (line : String) :
    SameCourse (fun _ => False) (fun _ => False)
      (fun r r' => r.tokens = r'.tokens ∧ r.state.Like R True r'.state)
      (g.tokenize engine line state) (g'.tokenize engine line state') := by
  have hcourse := h.scanLine_like hengine hreached hreached' hstate
    (line.toList ++ ['\n']).toArray
  unfold tokenize tokenizeChars
  generalize g.scanLine engine _ state = x at hcourse ⊢
  generalize g'.scanLine engine _ state' = y at hcourse ⊢
  cases hcourse with
  | @values s s' hs =>
      refine .values ⟨?_, .inside hs.stack⟩
      dsimp only
      rw [hs.emitted trivial, hs.stack.bodyScopes trivial]
  | same e => cases e <;> exact .same _
  | left h => exact h.elim
  | right h => exact h.elim

/-- All texts have the same tokens in both grammars. -/
theorem tokens_eq (lines : List String) :
    g.tokens engine .initial lines = g'.tokens engine .initial lines := by
  suffices hall : ∀ state state', g.Reachable engine state → g'.Reachable engine state' →
      state.Like R True state' → g.tokens engine state lines = g'.tokens engine state' lines from
    hall _ _ .initial .initial .initial
  induction lines with
  | nil => exact fun _ _ _ _ _ => rfl
  | cons line lines ih =>
      intro state state' hreached hreached' hstate
      have hcourse := h.tokenize_like hengine hreached hreached' hstate line
      rw [tokens, tokens]
      generalize hline : g.tokenize engine line state = x at hcourse ⊢
      generalize hline' : g'.tokenize engine line state' = y at hcourse ⊢
      cases hcourse with
      | @values result result' hresult =>
          dsimp only
          rw [hresult.1, ih _ _ (.line hreached hline) (.line hreached' hline') hresult.2]
      | same e => rfl
      | left h => exact h.elim
      | right h => exact h.elim

end Grammar.Renumbers

end ScopeCheck
