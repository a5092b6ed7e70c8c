import Mathlib.Data.Finset.Card
import Mathlib.Data.Finset.Range
import Mathlib.Tactic.Ring
import ScopeCheck.Proofs.Line.Layers

/-!
# Scans come to an end

A step may stay where it is: it may leave a rule that was open before, or enter one with an empty
match.  At one position first rules are left and then rules are entered, each once, so every step
lowers

* what is left of the text, times more than what a position can cost,
* plus the depth of the stack,
* plus twice the number of rules that have not been entered at the position.

`Grammar.Move.potential_lt` says so.  From it follow that no scan goes on without end and that the
bound on the steps of `Grammar.scan` is never reached.
-/

namespace ScopeCheck

variable {ρ : Type} {engine : RegexEngine ρ} {g : Grammar ρ} {scanner : Scanner ρ}
  {text : Array Char} {state : LineState ρ} {s : Scan ρ}

/-! ## Rules that have not been entered at a position -/

namespace Stack

/-- The number of rules, of the first `count`, that have not been entered at a position since
something was left. -/
def unopened (stack : Stack ρ) (count pos : Nat) : Nat :=
  ((Finset.range count).filter fun id => stack.justOpened id pos = false).card

theorem unopened_le (stack : Stack ρ) (count pos : Nat) : stack.unopened count pos ≤ count := by
  have hcard := Finset.card_filter_le (Finset.range count) fun id => stack.justOpened id pos = false
  rwa [Finset.card_range] at hcard

/-- Where the innermost rule was not entered, none counts as entered. -/
theorem unopened_eq {stack : Stack ρ} {pos : Nat} (h : stack.top.openedAt ≠ some pos)
    (count : Nat) : stack.unopened count pos = count := by
  have hnone : ∀ id, stack.justOpened id pos = false := by
    intro id
    have htop : (stack.top.openedAt == some pos) = false := beq_false_of_ne h
    rw [justOpened, frames, List.takeWhile_cons, htop]
    rfl
  unfold unopened
  rw [Finset.filter_true_of_mem fun id _ => hnone id, Finset.card_range]

/-- A rule that is entered counts as entered, with those before it. -/
theorem unopened_push_lt {stack : Stack ρ} {f : Frame ρ} {count pos : Nat}
    (hopened : f.openedAt = some pos) (hrule : f.rule < count)
    (hnew : stack.justOpened f.rule pos = false) :
    (stack.push f).unopened count pos < stack.unopened count pos := by
  have hpush : ∀ id, (stack.push f).justOpened id pos =
      (f.rule == id || stack.justOpened id pos) := by
    intro id
    have htop : (f.openedAt == some pos) = true := by
      rw [hopened]
      exact beq_self_eq_true _
    rw [justOpened, frames_push, List.takeWhile_cons, htop]
    rfl
  apply Finset.card_lt_card
  constructor
  · intro id hid
    obtain ⟨hrange, hid⟩ := Finset.mem_filter.1 hid
    rw [hpush, Bool.or_eq_false_iff] at hid
    exact Finset.mem_filter.2 ⟨hrange, hid.2⟩
  · intro hsubset
    -- The rule itself has been entered now.
    have hself := hsubset (Finset.mem_filter.2 ⟨Finset.mem_range.2 hrule, hnew⟩)
    have hfalse := (Finset.mem_filter.1 hself).2
    rw [hpush, beq_self_eq_true] at hfalse
    cases hfalse

end Stack

namespace Grammar

/-! ## What every step lowers -/

/-- A number that every step of a scan lowers. -/
def potential (g : Grammar ρ) (text : Array Char) (s : Scan ρ) : Nat :=
  (text.size - s.point.pos) * (2 * g.rules.size + 2) + s.stack.depth +
    2 * s.stack.unopened g.rules.size s.point.pos

theorem potential_lt_stepBound (s : Scan ρ) : g.potential text s < g.stepBound text s := by
  have hunopened := s.stack.unopened_le g.rules.size s.point.pos
  have hleft : (text.size - s.point.pos) * (2 * g.rules.size + 2) ≤
      text.size * (2 * g.rules.size + 2) := Nat.mul_le_mul_right _ (Nat.sub_le _ _)
  have hbound : 2 * (text.size + 1) * (g.rules.size + 2) =
      text.size * (2 * g.rules.size + 2) + (2 * g.rules.size + 4) + 2 * text.size := by
    ring
  unfold potential stepBound
  omega

/-- A step that moves on lowers the potential, whatever it does to the stack. -/
theorem potential_lt_of_pos {s' : Scan ρ} (hpos : s.point.pos < s'.point.pos)
    (hsize : s'.point.pos ≤ text.size) (hdepth : s'.stack.depth ≤ s.stack.depth + 1) :
    g.potential text s' < g.potential text s := by
  have hunopened := s'.stack.unopened_le g.rules.size s'.point.pos
  have hleft : (text.size - s'.point.pos + 1) * (2 * g.rules.size + 2) ≤
      (text.size - s.point.pos) * (2 * g.rules.size + 2) :=
    Nat.mul_le_mul_right _ (by omega)
  rw [Nat.add_mul, Nat.one_mul] at hleft
  unfold potential
  omega

/-- Rules that are matched are rules of the table. -/
theorem next_rule_lt (hcoherent : g.Coherent) {point : ScanPoint} {frame : Frame ρ}
    {id : RuleIndex} {found : Found}
    (hnext : g.next engine text point frame = .ok (some (.rule id, found))) :
    id < g.rules.size := by
  obtain ⟨pattern, hmem, _⟩ := next_eq_some hnext
  exact hcoherent.entries_lt frame.rule id (mem_candidates_rule hmem).1

/-- Below a rule whose end is matched there is another one. -/
theorem Layers.depth_pop (hlayers : g.Layers engine s.stack.frames) {found : Found}
    (hnext : g.next engine text s.point s.stack.top = .ok (some (.last, found))) :
    s.stack.pop.depth + 1 = s.stack.depth := by
  obtain ⟨pattern, hmem, _⟩ := next_eq_some hnext
  have hsearch : g.ClosingSearch s.stack.top pattern := Or.inl hmem
  obtain ⟨closing, hclosing, _⟩ := hsearch.eq_getD
  obtain ⟨point, ⟨top, below⟩, emitted⟩ := s
  cases below with
  | cons next rest => rfl
  | nil =>
      cases hlayers with
      | bottom hbottom =>
          rw [hbottom.container.closing?] at hclosing
          cases hclosing

/-- Every step that goes on lowers the potential. -/
theorem Move.potential_lt (hengine : engine.SearchesForward) (hcoherent : g.Coherent)
    (hlayers : g.Layers engine s.stack.frames) {s' : Scan ρ}
    (hmove : g.Move engine scanner text s (.next s')) :
    g.potential text s' < g.potential text s := by
  cases hmove with
  | @leave found out hcover hguard =>
      have hahead := next_ahead hengine hcover.1
      have hdepth := hlayers.depth_pop hcover.1
      have hpos : s.point.pos ≤ found.whole.stop := Nat.le_trans hahead.pos_le hahead.start_le
      rcases Nat.lt_or_eq_of_le hpos with hlt | heq
      · exact potential_lt_of_pos hlt hahead.stop_le (by show s.stack.pop.depth ≤ _; omega)
      · -- Nothing has been entered here, and a rule that was open before is left.
        have hunopened : s.stack.unopened g.rules.size s.point.pos = g.rules.size :=
          Stack.unopened_eq (hguard.resolve_left (by omega)) _
        have hafter := s.stack.pop.unopened_le g.rules.size s.point.pos
        unfold potential
        show (text.size - found.whole.stop) * _ + s.stack.pop.depth +
          2 * s.stack.pop.unopened _ found.whole.stop < _
        rw [← heq]
        omega
  | @single id found out pattern captures hform hcover hguard =>
      have hahead := next_ahead hengine hcover.1
      exact potential_lt_of_pos hguard hahead.stop_le (Nat.le_succ _)
  | @enter id found out closing hclosing hcover hguard =>
      have hahead := next_ahead hengine hcover.1
      have hpos : s.point.pos ≤ found.whole.stop := Nat.le_trans hahead.pos_le hahead.start_le
      rcases Nat.lt_or_eq_of_le hpos with hlt | heq
      · exact potential_lt_of_pos hlt hahead.stop_le (Nat.le_refl _)
      · -- A rule is entered here that had not been entered before.
        have hunopened := Stack.unopened_push_lt (f := g.frameOf engine text id closing found s) rfl
          (next_rule_lt hcoherent hcover.1) (hguard.resolve_left (by omega))
        unfold potential
        show (text.size - found.whole.stop) * _ + (s.stack.depth + 1) +
          2 * (s.stack.push _).unopened _ found.whole.stop < _
        rw [← heq]
        omega

/-! ## The loop of steps -/

/-- Repeated steps come to an end, with a result. -/
inductive Ends (engine : RegexEngine ρ) (g : Grammar ρ) (scanner : Scanner ρ)
    (text : Array Char) : Scan ρ → Except ScanError (Scan ρ) → Prop
  | error {s : Scan ρ} {e : ScanError} (hstep : g.step engine scanner text s = .error e) :
      Ends engine g scanner text s (.error e)
  | halt {s s' : Scan ρ} {reason : Halt}
      (hstep : g.step engine scanner text s = .ok (.halt reason s')) :
      Ends engine g scanner text s (.ok s')
  | next {s s' : Scan ρ} {result : Except ScanError (Scan ρ)}
      (hstep : g.step engine scanner text s = .ok (.next s'))
      (hrest : Ends engine g scanner text s' result) : Ends engine g scanner text s result

/-- What a step that goes on does to the potential, with what it keeps. -/
theorem step_potential_lt (hengine : engine.SearchesForward) (hcoherent : g.Coherent)
    (hlayers : g.Layers engine s.stack.frames) {s' : Scan ρ}
    (hstep : g.step engine scanner text s = .ok (.next s')) :
    g.Layers engine s'.stack.frames ∧ g.potential text s' < g.potential text s :=
  ⟨(layers_invariant hcoherent).move (step_move hstep) hlayers,
    (step_move hstep).potential_lt hengine hcoherent hlayers⟩

/-- With more fuel than the potential, the steps end by themselves. -/
theorem ends_steps (hengine : engine.SearchesForward) (hcoherent : g.Coherent)
    (hlayers : g.Layers engine s.stack.frames) {fuel : Nat} (hfuel : g.potential text s < fuel) :
    g.Ends engine scanner text s (g.steps engine scanner text fuel s) := by
  induction fuel generalizing s with
  | zero => omega
  | succ fuel ih =>
      rw [steps]
      cases hstep : g.step engine scanner text s with
      | error e => exact .error hstep
      | ok r =>
          cases r with
          | halt reason s' => exact .halt hstep
          | next s' =>
              obtain ⟨hlayers', hlt⟩ := step_potential_lt hengine hcoherent hlayers hstep
              exact .next hstep (ih hlayers' (by omega))

/-- No steps go on without end. -/
theorem no_endless_run (hengine : engine.SearchesForward) (hcoherent : g.Coherent)
    (hlayers : g.Layers engine s.stack.frames) (run : Nat → Scan ρ) (hstart : run 0 = s) :
    ¬ ∀ i, g.step engine scanner text (run i) = .ok (.next (run (i + 1))) := by
  intro hrun
  have hkept : ∀ i, g.Layers engine (run i).stack.frames ∧
      g.potential text (run i) + i ≤ g.potential text s := by
    intro i
    induction i with
    | zero =>
        rw [hstart]
        exact ⟨hlayers, Nat.le_refl _⟩
    | succ i ih =>
        obtain ⟨hlayers', hlt⟩ := step_potential_lt hengine hcoherent ih.1 (hrun i)
        exact ⟨hlayers', by omega⟩
  have := (hkept (g.potential text s + 1)).2
  omega

/-- Wherever a line is scanned, or a captured text in it, the steps come to an end, whatever the
scans inside them give: none goes on for ever, and the bound on their number changes nothing. -/
theorem Reachable.scans_end (hengine : engine.SearchesForward) (hloaded : g.Loaded engine)
    (hstate : g.Reachable engine state) {bound depth : Nat} {line : Array Char}
    (hvisits : g.Visits engine bound line state depth text s) (scanner : Scanner ρ) :
    (¬ ∃ run : Nat → Scan ρ, run 0 = s ∧
      ∀ i, g.step engine scanner text (run i) = .ok (.next (run (i + 1)))) ∧
    g.Ends engine scanner text s (g.steps engine scanner text (g.stepBound text s) s) := by
  have hlayers := hvisits.layers hloaded hstate
  constructor
  · rintro ⟨run, hstart, hrun⟩
    exact no_endless_run hengine hloaded.coherent hlayers run hstart hrun
  · exact ends_steps hengine hloaded.coherent hlayers (potential_lt_stepBound s)

/-- In the region of the small grammar. -/
theorem Reachable.sample_scans_end :
    RegexEngine.literal.SearchesForward ∧
    Sample.grammar.Loaded .literal ∧
    Sample.grammar.Reachable .literal (.inside Sample.opened) ∧
    Sample.grammar.Visits .literal 2 Sample.closingLine (.inside Sample.opened) 2
      Sample.closingLine Sample.start ∧
    (¬ ∃ run : Nat → Scan (List Char), run 0 = Sample.start ∧
      ∀ i, Sample.grammar.step .literal (Sample.grammar.scan .literal 1) Sample.closingLine
        (run i) = .ok (.next (run (i + 1)))) ∧
    Sample.grammar.Ends .literal (Sample.grammar.scan .literal 1) Sample.closingLine Sample.start
      (Sample.grammar.steps .literal (Sample.grammar.scan .literal 1) Sample.closingLine
        (Sample.grammar.stepBound Sample.closingLine Sample.start) Sample.start) :=
  ⟨RegexEngine.literal_staysInside.searchesForward, Sample.grammar_loaded, Sample.opened_reachable,
    Sample.start_visited,
    Reachable.scans_end RegexEngine.literal_staysInside.searchesForward Sample.grammar_loaded
      Sample.opened_reachable Sample.start_visited _⟩

end Grammar

end ScopeCheck
