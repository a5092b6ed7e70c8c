import ScopeCheck.Pattern.Basic

/-!
# Reading in escape pairs

A source is read from the left as escape pairs, a backslash with the character after it, and plain
characters.  An anchor is one of these pairs.  Two loops go over the characters of a source: the
first one looks for an anchor, the second one replaces the anchors that are not allowed.

* `Anchors.pieces` is the reading of a source.  `Anchors.flatMap_chars_pieces`: it loses nothing,
  and `Anchors.pieces_flatMap_chars`: no other list of pieces is a reading of the same source;
* `Anchors.occur_eq` and `Anchors.restrict_eq` are the loops in terms of the pieces;
* `Anchors.pieces_restrict`: what has been replaced is read back, so that two replacements after
  each other are one (`Anchors.restrict_restrict`);
* `Pattern.pick_ofSource`: the variant of a pattern for a choice of anchors is always made from the
  source with the others replaced, although a source without anchors has one variant only.

`Pattern.anchors_replaced` puts this together.
-/

namespace ScopeCheck

namespace Anchors

/-- A piece of a source. -/
inductive Piece
  | plain (c : Char)
  | escaped (c : Char)
  deriving DecidableEq, Repr

/-- Reads a source; a backslash at its end is a plain character. -/
def pieces : List Char → List Piece
  | '\\' :: c :: rest => .escaped c :: pieces rest
  | c :: rest => .plain c :: pieces rest
  | [] => []

/-- The text of a piece. -/
def Piece.chars : Piece → List Char
  | plain c => [c]
  | escaped c => ['\\', c]

/-- Whether a piece is an anchor. -/
def Piece.isAnchor : Piece → Bool
  | escaped c => c = 'A' || c = 'G'
  | plain _ => false

/-- A piece, or the character that never occurs in the place of an anchor that is not allowed. -/
def Piece.restricted (allowStart allowEntry : Bool) (p : Piece) : Piece :=
  if (p = escaped 'A' ∧ allowStart = false) ∨ (p = escaped 'G' ∧ allowEntry = false) then
    plain unmatchable
  else p

/-- Only the last of these pieces may be a backslash that stands alone. -/
def EscapesPaired : List Piece → Prop
  | [] => True
  | p :: rest => (p = .plain '\\' → rest = []) ∧ EscapesPaired rest

variable {c : Char} {rest source : List Char} {ps : List Piece}

/-! ## The reading of a source -/

theorem pieces_of_ne (h : c ≠ '\\') : pieces (c :: rest) = .plain c :: pieces rest := by
  rw [pieces]
  rintro _ _ rfl
  exact absurd rfl h

theorem flatMap_chars_pieces (source : List Char) :
    (pieces source).flatMap Piece.chars = source := by
  fun_induction pieces source <;> simp_all [Piece.chars]

theorem escapesPaired_pieces (source : List Char) : EscapesPaired (pieces source) := by
  fun_induction pieces source with
  | case1 c rest ih => exact ⟨by simp, ih⟩
  | case2 c rest halone ih =>
      refine ⟨?_, ih⟩
      intro hescape
      obtain rfl : c = '\\' := by simpa using hescape
      cases rest with
      | nil => rfl
      | cons d rest => exact absurd rfl (halone d rest rfl)
  | case3 => trivial

/-- There is one reading of a source. -/
theorem pieces_flatMap_chars (h : EscapesPaired ps) : pieces (ps.flatMap Piece.chars) = ps := by
  induction ps with
  | nil => rfl
  | cons p ps ih =>
      obtain ⟨hlast, hrest⟩ := h
      cases p with
      | escaped c => simp [Piece.chars, pieces, ih hrest]
      | plain c =>
          by_cases hescape : c = '\\'
          · subst hescape
            rw [hlast rfl]
            rfl
          · rw [List.flatMap_cons, Piece.chars, List.singleton_append, pieces_of_ne hescape,
              ih hrest]

/-! ## The loops -/

/-- A source has an anchor when one of its pieces is one. -/
theorem occur_eq (source : List Char) : occur source = (pieces source).any Piece.isAnchor := by
  fun_induction pieces source with
  | case1 c rest ih => rw [occur, ih, List.any_cons, Piece.isAnchor]
  | case2 c rest halone ih =>
      rw [occur.eq_2 c rest halone, ih, List.any_cons, Piece.isAnchor, Bool.false_or]
  | case3 => rfl

/-- The anchors that are not allowed are replaced, and the rest is copied. -/
theorem restrict_eq (allowStart allowEntry : Bool) (source : List Char) :
    restrict allowStart allowEntry source =
      (pieces source).flatMap fun p => (p.restricted allowStart allowEntry).chars := by
  fun_induction pieces source with
  | case1 c rest ih =>
      rw [restrict, List.flatMap_cons, ih, Piece.restricted]
      simp only [Piece.escaped.injEq, Bool.or_eq_true, Bool.and_eq_true, decide_eq_true_eq,
        Bool.not_eq_true']
      split <;> rfl
  | case2 c rest halone ih =>
      rw [restrict.eq_2 allowStart allowEntry c rest halone, List.flatMap_cons, ih,
        Piece.restricted, if_neg (by simp)]
      rfl
  | case3 => rfl

/-- Nothing changes when both anchors are allowed. -/
theorem restrict_true_true (source : List Char) : restrict true true source = source := by
  have hkept : ∀ p : Piece, (p.restricted true true).chars = p.chars := by
    intro p
    rw [Piece.restricted, if_neg (by simp)]
  rw [restrict_eq]
  simp only [hkept]
  exact flatMap_chars_pieces source

/-- Nothing changes in a source without anchors. -/
theorem restrict_of_not_occur (h : occur source = false) (allowStart allowEntry : Bool) :
    restrict allowStart allowEntry source = source := by
  have hkept : ∀ p ∈ pieces source, (p.restricted allowStart allowEntry).chars = p.chars := by
    intro p hp
    have hplain : p.isAnchor = false := by
      rw [occur_eq] at h
      simpa using List.any_eq_false.1 h p hp
    rw [Piece.restricted, if_neg]
    rintro (⟨rfl, -⟩ | ⟨rfl, -⟩) <;> cases hplain
  rw [restrict_eq, List.flatMap_def, List.map_congr_left hkept, ← List.flatMap_def,
    flatMap_chars_pieces]

/-! ## Two replacements after each other -/

theorem Piece.restricted_eq_backslash {allowStart allowEntry : Bool} {p : Piece}
    (h : p.restricted allowStart allowEntry = plain '\\') : p = plain '\\' := by
  rw [restricted] at h
  split at h
  · cases h
  · exact h

theorem Piece.restricted_restricted (allowStart allowEntry allowStart' allowEntry' : Bool)
    (p : Piece) :
    (p.restricted allowStart allowEntry).restricted allowStart' allowEntry' =
      p.restricted (allowStart && allowStart') (allowEntry && allowEntry') := by
  by_cases hreplaced :
      (p = escaped 'A' ∧ allowStart = false) ∨ (p = escaped 'G' ∧ allowEntry = false)
  · -- What stands for an anchor is no anchor.
    have hagain : (p = escaped 'A' ∧ (allowStart && allowStart') = false) ∨
        (p = escaped 'G' ∧ (allowEntry && allowEntry') = false) := by
      rcases hreplaced with ⟨hp, rfl⟩ | ⟨hp, rfl⟩
      · exact Or.inl ⟨hp, rfl⟩
      · exact Or.inr ⟨hp, rfl⟩
    rw [restricted, restricted, restricted, if_pos hreplaced, if_pos hagain, if_neg (by simp)]
  · have hkept : p.restricted allowStart allowEntry = p := by rw [restricted, if_neg hreplaced]
    rw [hkept, restricted, restricted]
    congr 1
    simp only [Bool.and_eq_false_iff, eq_iff_iff]
    grind

theorem EscapesPaired.restricted (h : EscapesPaired ps) (allowStart allowEntry : Bool) :
    EscapesPaired (ps.map (Piece.restricted allowStart allowEntry)) := by
  induction ps with
  | nil => trivial
  | cons p ps ih =>
      obtain ⟨hlast, hrest⟩ := h
      refine ⟨?_, ih hrest⟩
      intro hescape
      rw [hlast (Piece.restricted_eq_backslash hescape), List.map_nil]

/-- What has been replaced is read as plain characters, and the rest as before. -/
theorem pieces_restrict (allowStart allowEntry : Bool) (source : List Char) :
    pieces (restrict allowStart allowEntry source) =
      (pieces source).map (Piece.restricted allowStart allowEntry) := by
  rw [restrict_eq, ← List.flatMap_map,
    pieces_flatMap_chars ((escapesPaired_pieces source).restricted allowStart allowEntry)]

/-- Anchors may be forbidden one after the other. -/
theorem restrict_restrict (allowStart allowEntry allowStart' allowEntry' : Bool)
    (source : List Char) :
    restrict allowStart' allowEntry' (restrict allowStart allowEntry source) =
      restrict (allowStart && allowStart') (allowEntry && allowEntry') source := by
  rw [restrict_eq, pieces_restrict, List.flatMap_map, restrict_eq]
  simp only [Piece.restricted_restricted]

end Anchors

namespace Pattern

open Anchors

variable {ρ : Type}

@[simp] theorem source_ofSource (engine : RegexEngine ρ) (source : String) :
    (ofSource engine source).source = source := by
  unfold ofSource
  split <;> rfl

theorem both_ofSource (engine : RegexEngine ρ) (source : String) :
    (ofSource engine source).variants.both = engine.compile source := by
  unfold ofSource
  split <;> rfl

/-- Each variant is the source with the anchors that are not allowed replaced. -/
theorem pick_ofSource (engine : RegexEngine ρ) (source : String) (allowStart allowEntry : Bool) :
    (ofSource engine source).variants.pick allowStart allowEntry =
      engine.compile (String.ofList (Anchors.restrict allowStart allowEntry source.toList)) := by
  unfold ofSource
  split
  · cases allowStart <;> cases allowEntry
    case true.true => simp [PerAnchors.pick, Anchors.restrict_true_true]
    all_goals rfl
  · rename_i hnone
    rw [Anchors.restrict_of_not_occur (Bool.eq_false_iff.2 hnone), String.ofList_toList]
    cases allowStart <;> cases allowEntry <;> rfl

/-- What replacing anchors does to a source, in terms of its pieces. -/
structure ReplacesAnchors (engine : RegexEngine ρ) (source : String) : Prop where
  /-- The source is made of its pieces, and a backslash stands alone at its end only. -/
  whole : (pieces source.toList).flatMap Piece.chars = source.toList ∧
    EscapesPaired (pieces source.toList)
  /-- No other pieces do that. -/
  unique : ∀ ps, ps.flatMap Piece.chars = source.toList → EscapesPaired ps →
    ps = pieces source.toList
  /-- An anchor is found when one of the pieces is one. -/
  occur_iff : occur source.toList = true ↔
    .escaped 'A' ∈ pieces source.toList ∨ .escaped 'G' ∈ pieces source.toList
  /-- The pieces that are no anchors, or allowed, are copied. -/
  restrict_eq : ∀ allowStart allowEntry, restrict allowStart allowEntry source.toList =
    (pieces source.toList).flatMap fun p => (p.restricted allowStart allowEntry).chars
  /-- Anchors may be replaced one kind after the other. -/
  one_by_one : ∀ allowStart allowEntry allowStart' allowEntry',
    restrict allowStart' allowEntry' (restrict allowStart allowEntry source.toList) =
      restrict (allowStart && allowStart') (allowEntry && allowEntry') source.toList
  /-- Nothing changes when both are allowed. -/
  both_allowed : restrict true true source.toList = source.toList
  /-- Nothing changes in a source without anchors. -/
  without : occur source.toList = false → ∀ allowStart allowEntry,
    restrict allowStart allowEntry source.toList = source.toList
  /-- The variant that is picked has been compiled from what replacing leaves. -/
  variant : ∀ allowStart allowEntry, (ofSource engine source).variants.pick allowStart allowEntry =
    engine.compile (String.ofList (restrict allowStart allowEntry source.toList))
  /-- A pattern without anchors has one variant for all choices. -/
  shared : occur source.toList = false → ∀ allowStart allowEntry,
    (ofSource engine source).variants.pick allowStart allowEntry =
      (ofSource engine source).variants.both

/-- Both loops over a source read it in escape pairs: one finds the anchors and the other one
replaces them, and the variants of a pattern follow from this. -/
theorem anchors_replaced (engine : RegexEngine ρ) (source : String) :
    ReplacesAnchors engine source where
  whole := ⟨flatMap_chars_pieces _, escapesPaired_pieces _⟩
  unique := by
    intro ps hsource hpaired
    rw [← hsource, pieces_flatMap_chars hpaired]
  occur_iff := by
    have hanchor : ∀ p : Piece, p.isAnchor = true ↔ p = .escaped 'A' ∨ p = .escaped 'G' := by
      intro p
      cases p <;> simp [Piece.isAnchor]
    rw [occur_eq, List.any_eq_true]
    constructor
    · rintro ⟨p, hp, hkind⟩
      rcases (hanchor p).1 hkind with rfl | rfl
      · exact Or.inl hp
      · exact Or.inr hp
    · rintro (hp | hp)
      · exact ⟨_, hp, rfl⟩
      · exact ⟨_, hp, rfl⟩
  restrict_eq := fun allowStart allowEntry => Anchors.restrict_eq allowStart allowEntry _
  one_by_one := by
    intro allowStart allowEntry allowStart' allowEntry'
    exact restrict_restrict allowStart allowEntry allowStart' allowEntry' _
  both_allowed := restrict_true_true _
  without := restrict_of_not_occur
  variant := pick_ofSource engine source
  shared := by
    intro hnone allowStart allowEntry
    rw [pick_ofSource, restrict_of_not_occur hnone, String.ofList_toList, both_ofSource]

end Pattern

end ScopeCheck
