import Mathlib.Data.Finset.Prod
import Mathlib.Tactic.Ring
import ScopeCheck.Proofs.Line.Bounds
import ScopeCheck.Proofs.Line.Renaming

/-!
# How deep scans can stand inside each other

Captured texts are scanned inside the scan of their line, and `Grammar.nestingBound` says how deep.
This bound is no limit: where scans stand deeper, one of them stands inside of itself, and then no
depth is enough.

* `Grammar.Closed.renames`: a grammar has its rules under its own numbers;
* `Grammar.scan_selfLike`: what the scan of a captured text comes to does not depend on scopes;
* `Grammar.scan_deeper`: with one more level nothing changes but for scans that were too deep;
* `Grammar.tooDeep`: the captured texts of a line for which a depth is not enough.  They get fewer
  with every level up to a depth from which on they stay the same, `Grammar.exists_tooDeep_eq`;
* `Grammar.scanLine_eq_of_le`: every line gives the same with any depth from the bound on.
-/

namespace ScopeCheck

variable {ρ : Type} {engine : RegexEngine ρ} {g : Grammar ρ} {line text : Array Char}

/-! ## A grammar under its own numbers -/

/-- A number of the grammar belongs to itself. -/
def Grammar.Own (g : Grammar ρ) (i j : RuleIndex) : Prop := i = j ∧ i < g.rules.size

/-- Every closed grammar has its rules under its own numbers. -/
theorem Grammar.Closed.renames (h : g.Closed) : g.Renames g.Own g where
  unique := by
    rintro i _ i' _ ⟨rfl, _⟩ ⟨rfl, _⟩
    exact Iff.rfl
  root := ⟨rfl, h.root_lt⟩
  scopeName := rfl
  rule := by
    rintro i _ ⟨rfl, _⟩
    have hcaptures : ∀ captures : GroupRules,
        captures ⊆ (g.rule i).entryCaptures ++ (g.rule i).closingCaptures →
          GroupRules.Like g.Own captures captures := by
      intro captures hsubset
      refine List.forall₂_same.2 fun entry hentry => ⟨rfl, rfl, rfl, ?_⟩
      obtain ⟨number, rule⟩ := entry
      cases hinner : rule.inner with
      | none => exact .none
      | some container =>
          exact .some ⟨rfl, (h.inner i number rule container (hsubset hentry) hinner).1⟩
    refine ⟨rfl, rfl, ?_⟩
    unfold Rule.entryCaptures Rule.closingCaptures at hcaptures
    generalize (g.rule i).form = form at hcaptures ⊢
    cases form with
    | single pattern captures => exact .single (hcaptures _ (List.subset_append_left _ _))
    | region first begins last ends flag inside =>
        exact .region (hcaptures _ (List.subset_append_left _ _))
          (hcaptures _ (List.subset_append_right _ _))
    | during first begins condition holds inside =>
        exact .during (hcaptures _ (List.subset_append_left _ _))
          (hcaptures _ (List.subset_append_right _ _))
    | container inside => exact .container
  entries := by
    rintro i _ ⟨rfl, _⟩
    exact List.forall₂_same.2 fun entry hentry => ⟨rfl, (h.entries i entry hentry).1⟩

/-! ## One more level -/

/-- No failure is excused. -/
abbrev NoFailure (_ : ScanError) : Prop := False

namespace Grammar

variable (hengine : engine.StaysInside) (hclosed : g.Closed)

include hengine hclosed

/-- What a scan comes to does not depend on scopes. -/
theorem scan_selfLike (labels : Prop) (line : Array Char) (depth : Nat) :
    Scanner.Like g.Own labels NoFailure NoFailure line (g.scan engine depth)
      (g.scan engine depth) := by
  induction depth with
  | zero => exact fun _ _ _ _ _ _ _ => .same ScanError.endless
  | succ depth ih =>
      intro text htext s s' hs _ _
      exact scan_like hengine hclosed.renames ih (Or.inl rfl) htext hs

/-- With one more level nothing changes but for scans that were too deep. -/
theorem scan_deeper (line : Array Char) (depth : Nat) :
    Scanner.Like g.Own True (· = .endless) NoFailure line (g.scan engine depth)
      (g.scan engine (depth + 1)) := by
  induction depth with
  | zero => exact fun _ _ _ _ _ _ _ => .left rfl
  | succ depth ih =>
      intro text htext s s' hs _ _
      exact scan_like hengine hclosed.renames ih (Or.inl rfl) htext hs

end Grammar

/-- A scan in which all rules are those of the grammar goes with no other one. -/
theorem Scan.Like.eq {s s' : Scan ρ} (h : s.Like g.Own True s') : s = s' := by
  have hframe : ∀ {f f' : Frame ρ}, f.Like g.Own True f' → f = f' := by
    intro f f' hf
    obtain ⟨rule, openedAt, anchor, tookLineEnd, matchScopes, bodyScopes, filledLast⟩ := f
    obtain ⟨rule', openedAt', anchor', tookLineEnd', matchScopes', bodyScopes', filledLast'⟩ := f'
    obtain ⟨⟨hrule, _⟩, hopenedAt, hanchor, htookLineEnd, hfilledLast, hmatch, hbody⟩ := hf
    dsimp only at hrule hopenedAt hanchor htookLineEnd hfilledLast hmatch hbody
    rw [hrule, hopenedAt, hanchor, htookLineEnd, hfilledLast, hmatch trivial, hbody trivial]
  obtain ⟨point, ⟨top, below⟩, emitted⟩ := s
  obtain ⟨point', ⟨top', below'⟩, emitted'⟩ := s'
  obtain ⟨hpoint, ⟨htop, hbelow⟩, hemitted⟩ := h
  have hbelow : below = below' := List.forall₂_eq_eq_eq ▸ hbelow.imp fun _ _ => hframe
  dsimp only at hpoint htop hemitted
  rw [hpoint, hframe htop, hbelow, hemitted trivial]

theorem Scan.IsOpening.selfLike {s : Scan ρ} (h : s.IsOpening)
    (hrule : s.stack.top.rule < g.rules.size) : s.Like g.Own True s := by
  obtain ⟨container, start, flag, matchScopes, bodyScopes, out, rfl⟩ := h
  exact ⟨rfl, ⟨⟨⟨rfl, hrule⟩, rfl, rfl, rfl, rfl, fun _ => rfl, fun _ => rfl⟩, .nil⟩, fun _ => rfl⟩

/-! ## Depths that are enough -/

/-- Two scanners give the same on the captured texts of a line. -/
def Grammar.Agree (g : Grammar ρ) (line : Array Char) (scanner scanner' : Scanner ρ) : Prop :=
  ∀ text, IsBeginning line text → ∀ s : Scan ρ, s.IsOpening → s.stack.top.rule < g.rules.size →
    s.point.pos ≤ line.size → scanner text s = scanner' text s

/-- What of a captured text decides whether its scan is too deep: the container, the start and the
end of the text, and whether the first line begins there. -/
abbrev OpeningKey := RuleIndex × Nat × Nat × Bool

/-- The scan of a captured text without scopes. -/
def OpeningKey.scan (k : OpeningKey) : Scan ρ :=
  ⟨⟨k.2.1, none, k.2.2.2⟩, ⟨⟨k.1, some k.2.1, none, false, [], [], none⟩, []⟩, .none⟩

namespace Grammar

/-- All captured texts that there can be in a line. -/
def openingKeys (g : Grammar ρ) (line : Array Char) : Finset OpeningKey :=
  Finset.range g.rules.size ×ˢ Finset.range (line.size + 1) ×ˢ Finset.range (line.size + 1) ×ˢ
    {false, true}

open Classical in
/-- The captured texts of a line whose scans are too deep. -/
noncomputable def tooDeep (engine : RegexEngine ρ) (g : Grammar ρ) (line : Array Char)
    (depth : Nat) : Finset OpeningKey :=
  {k ∈ g.openingKeys line | g.scan engine depth (line.extract 0 k.2.2.1) k.scan = .error .endless}

theorem mem_openingKeys {k : OpeningKey} : k ∈ g.openingKeys line ↔
    k.1 < g.rules.size ∧ k.2.1 ≤ line.size ∧ k.2.2.1 ≤ line.size := by
  have hflag : k.2.2.2 ∈ ({false, true} : Finset Bool) := by
    cases k.2.2.2 <;> simp
  simp only [openingKeys, Finset.mem_product, Finset.mem_range, Nat.lt_succ_iff, hflag, and_true]

theorem mem_tooDeep {k : OpeningKey} {depth : Nat} : k ∈ g.tooDeep engine line depth ↔
    k ∈ g.openingKeys line ∧
      g.scan engine depth (line.extract 0 k.2.2.1) k.scan = .error .endless := by
  classical
  exact Finset.mem_filter

theorem card_openingKeys_lt (g : Grammar ρ) (line : Array Char) :
    (g.openingKeys line).card < g.nestingBound line := by
  have hcard : (g.openingKeys line).card =
      2 * g.rules.size * (line.size + 1) * (line.size + 1) := by
    simp only [openingKeys, Finset.card_product, Finset.card_range]
    rw [Finset.card_pair Bool.false_ne_true]
    ring
  have hsize : 2 * g.rules.size * (line.size + 1) * (line.size + 1) ≤
      2 * (g.rules.size + 1) * (line.size + 1) * (line.size + 1) :=
    Nat.mul_le_mul_right _ (Nat.mul_le_mul_right _ (by omega))
  rw [hcard, nestingBound]
  exact Nat.lt_succ_of_le hsize

theorem Agree.trans {scanner scanner' scanner'' : Scanner ρ} (h : g.Agree line scanner scanner')
    (h' : g.Agree line scanner' scanner'') : g.Agree line scanner scanner'' :=
  fun text htext s hopening hrule hpos =>
    (h text htext s hopening hrule hpos).trans (h' text htext s hopening hrule hpos)

section Enough

variable (hengine : engine.StaysInside) (hclosed : g.Closed)

include hengine hclosed

/-- Scanners that agree take the same course if one of them is a scan of the grammar. -/
theorem Agree.like {scanner : Scanner ρ} {depth : Nat}
    (h : g.Agree line (g.scan engine depth) scanner) :
    Scanner.Like g.Own True NoFailure NoFailure line (g.scan engine depth) scanner := by
  intro text htext s s' hs hopening hpos
  obtain rfl := hs.eq
  rw [← h text htext s hopening hs.stack.top.rule.2 hpos]
  exact scan_selfLike hengine hclosed True line depth text htext s s hs hopening hpos

omit hengine hclosed in
theorem agree_of_like {scanner scanner' : Scanner ρ}
    (h : Scanner.Like g.Own True NoFailure NoFailure line scanner scanner') :
    g.Agree line scanner scanner' := by
  intro text htext s hopening hrule hpos
  have hcourse := h text htext s s (hopening.selfLike hrule) hopening hpos
  generalize scanner text s = x at hcourse ⊢
  generalize scanner' text s = y at hcourse ⊢
  cases hcourse with
  | values h => rw [h.eq]
  | same e => rfl
  | left h => exact h.elim
  | right h => exact h.elim

/-- Scans agree if those inside of them do. -/
theorem Agree.succ {depth depth' : Nat}
    (h : g.Agree line (g.scan engine depth) (g.scan engine depth')) :
    g.Agree line (g.scan engine (depth + 1)) (g.scan engine (depth' + 1)) :=
  agree_of_like fun _ htext _ _ hs _ _ =>
    scan_like hengine hclosed.renames (h.like hengine hclosed) (Or.inl rfl) htext hs

/-- Whether a captured text is too deep does not depend on scopes. -/
theorem endless_iff {k : OpeningKey} (hk : k ∈ g.openingKeys line) (depth : Nat)
    (matchScopes bodyScopes : List String) (out : Emitted) :
    g.scan engine depth (line.extract 0 k.2.2.1) ⟨⟨k.2.1, none, k.2.2.2⟩,
        ⟨⟨k.1, some k.2.1, none, false, matchScopes, bodyScopes, none⟩, []⟩, out⟩ =
        .error .endless ↔
      g.scan engine depth (line.extract 0 k.2.2.1) k.scan = .error .endless := by
  obtain ⟨hrule, hstart, hstop⟩ := mem_openingKeys.1 hk
  have hcourse := scan_selfLike hengine hclosed False line depth _ ⟨k.2.2.1, hstop, rfl⟩
    ⟨⟨k.2.1, none, k.2.2.2⟩,
      ⟨⟨k.1, some k.2.1, none, false, matchScopes, bodyScopes, none⟩, []⟩, out⟩ k.scan
    ⟨rfl, ⟨⟨⟨rfl, hrule⟩, rfl, rfl, rfl, rfl, False.elim, False.elim⟩, .nil⟩, False.elim⟩
    ⟨_, _, _, _, _, _, rfl⟩ hstart
  generalize g.scan engine depth (line.extract 0 k.2.2.1) _ = x at hcourse ⊢
  generalize g.scan engine depth (line.extract 0 k.2.2.1) k.scan = y at hcourse ⊢
  cases hcourse with
  | values => exact ⟨nofun, nofun⟩
  | same e => exact Iff.rfl
  | left h => exact h.elim
  | right h => exact h.elim

/-- The next level gives the same, or this one is too deep. -/
theorem scan_eq_or_endless (htext : IsBeginning line text) {s : Scan ρ} (hopening : s.IsOpening)
    (hrule : s.stack.top.rule < g.rules.size) (hpos : s.point.pos ≤ line.size) (depth : Nat) :
    g.scan engine depth text s = g.scan engine (depth + 1) text s ∨
      g.scan engine depth text s = .error .endless := by
  have hcourse := scan_deeper hengine hclosed line depth text htext s s
    (hopening.selfLike hrule) hopening hpos
  generalize g.scan engine depth text s = x at hcourse ⊢
  generalize g.scan engine (depth + 1) text s = y at hcourse ⊢
  cases hcourse with
  | values h => exact Or.inl (by rw [h.eq])
  | same e => exact Or.inl rfl
  | left h => exact Or.inr (by rw [h])
  | right h => exact h.elim

/-- Where the next level is not enough for more texts, this level is as good. -/
theorem agree_of_tooDeep_eq {depth : Nat}
    (h : g.tooDeep engine line depth = g.tooDeep engine line (depth + 1)) :
    g.Agree line (g.scan engine depth) (g.scan engine (depth + 1)) := by
  intro text htext s hopening hrule hpos
  rcases scan_eq_or_endless hengine hclosed htext hopening hrule hpos depth with hsame | hendless
  · exact hsame
  · obtain ⟨stop, hstop, rfl⟩ := htext
    obtain ⟨container, start, flag, matchScopes, bodyScopes, out, rfl⟩ := hopening
    have hk : (container, start, stop, flag) ∈ g.openingKeys line :=
      mem_openingKeys.2 ⟨hrule, hpos, hstop⟩
    have hdeep : (container, start, stop, flag) ∈ g.tooDeep engine line depth :=
      mem_tooDeep.2 ⟨hk, (endless_iff hengine hclosed hk depth _ _ _).1 hendless⟩
    rw [h] at hdeep
    exact hendless.trans
      ((endless_iff hengine hclosed hk (depth + 1) _ _ _).2 (mem_tooDeep.1 hdeep).2).symm

theorem tooDeep_succ_subset (depth : Nat) :
    g.tooDeep engine line (depth + 1) ⊆ g.tooDeep engine line depth := by
  intro k hk
  obtain ⟨hkey, hnext⟩ := mem_tooDeep.1 hk
  obtain ⟨hrule, hstart, hstop⟩ := mem_openingKeys.1 hkey
  refine mem_tooDeep.2 ⟨hkey, ?_⟩
  rcases scan_eq_or_endless hengine hclosed ⟨k.2.2.1, hstop, rfl⟩ ⟨_, _, _, _, _, _, rfl⟩ hrule
    hstart depth with hsame | hendless
  · exact hsame.trans hnext
  · exact hendless

/-- Some depth, not above the number of texts, is as good as the next one. -/
theorem exists_tooDeep_eq (line : Array Char) :
    ∃ depth ≤ (g.openingKeys line).card,
      g.tooDeep engine line depth = g.tooDeep engine line (depth + 1) := by
  by_contra hnone
  have hnone : ∀ depth ≤ (g.openingKeys line).card,
      g.tooDeep engine line depth ≠ g.tooDeep engine line (depth + 1) :=
    fun depth hdepth heq => hnone ⟨depth, hdepth, heq⟩
  have hcard : ∀ depth ≤ (g.openingKeys line).card + 1,
      (g.tooDeep engine line depth).card + depth ≤ (g.openingKeys line).card := by
    intro depth hdepth
    induction depth with
    | zero => exact Finset.card_le_card fun k hk => (mem_tooDeep.1 hk).1
    | succ depth ih =>
        have hlt := Finset.card_lt_card
          ((tooDeep_succ_subset hengine hclosed depth).ssubset_of_ne
            (hnone depth (by omega)).symm)
        have := ih (by omega)
        omega
  have := hcard _ (Nat.le_refl _)
  omega

/-- From the bound on, every depth gives the same. -/
theorem agree_of_le {depth depth' : Nat} (hdepth : (g.openingKeys line).card ≤ depth)
    (hle : depth ≤ depth') : g.Agree line (g.scan engine depth) (g.scan engine depth') := by
  obtain ⟨enough, henough, heq⟩ := exists_tooDeep_eq hengine hclosed line
  have hnext : ∀ n, enough ≤ n → g.Agree line (g.scan engine n) (g.scan engine (n + 1)) := by
    intro n hn
    induction n, hn using Nat.le_induction with
    | base => exact agree_of_tooDeep_eq hengine hclosed heq
    | succ n _ ih => exact ih.succ hengine hclosed
  induction depth', hle using Nat.le_induction with
  | base => exact fun _ _ _ _ _ _ => rfl
  | succ n hn ih => exact ih.trans (hnext n (by omega))

/-- Lines give the same with every depth from the bound on. -/
theorem scanLine_eq_of_le {state : LineState ρ} (hstate : state.Like g.Own True state)
    {depth : Nat} (hdepth : g.nestingBound line ≤ depth) :
    g.scanLine engine line state = g.scanLineWithin engine depth line state := by
  have hcard := g.card_openingKeys_lt line
  obtain ⟨bound, hbound⟩ := Nat.exists_eq_succ_of_ne_zero (Nat.ne_zero_of_lt hcard)
  obtain ⟨outer, rfl⟩ := Nat.exists_eq_succ_of_ne_zero (Nat.ne_zero_of_lt (hcard.trans_le hdepth))
  have hagree : g.Agree line (g.scan engine bound) (g.scan engine outer) :=
    agree_of_le hengine hclosed (by omega) (by omega)
  have hcourse := scanLineWithin_like hengine hclosed.renames (hagree.like hengine hclosed)
    (Or.inl rfl) hstate
  show g.scanLineWithin engine (g.nestingBound line) line state = _
  rw [hbound]
  generalize g.scanLineWithin engine bound.succ line state = x at hcourse ⊢
  generalize g.scanLineWithin engine outer.succ line state = y at hcourse ⊢
  cases hcourse with
  | values h => rw [h.eq]
  | same e => rfl
  | left h => exact h.elim
  | right h => exact h.elim

end Enough

end Grammar

end ScopeCheck
