import ScopeCheck.Proofs.Pattern.Filled

/-!
# References among escape pairs

Anchors are looked for among the escape pairs of a source: a backslash and the character behind it.
Read in the same way, a reference is the pair of a backslash and a digit, with the digits behind it,
and an escaped backslash is no reference whatever follows it.  A pattern is filled with another
reading, which looks for a backslash and digits at any place.  Here the two are compared.

* `BackReference.parts` are the parts of a source that is read in escape pairs;
  `BackReference.flatMap_chars_parts`: they lose nothing;
* `BackReference.flatMap_subst_pieces` and `BackReference.any_isQuote_pieces`: filling replaces the
  references, but it also takes the second backslash of an escaped one for their start when digits
  follow it;
* `BackReference.references_filled` is the result for patterns: references alone are replaced, if no
  digits follow an escaped backslash.

In `BackReference.escaped_backslash_filled` they do.
-/

namespace ScopeCheck

namespace BackReference

/-- A part of a source that is read in escape pairs. -/
inductive Part
  /-- A piece that is neither of the two below. -/
  | kept (p : Anchors.Piece)
  /-- The pair of a backslash and a digit, with the digits behind it. -/
  | reference (digits : List Char)
  /-- An escaped backslash, with the digits behind it. -/
  | literal (digits : List Char)
  deriving DecidableEq, Repr

/-- Whether a piece is a digit that is not escaped. -/
def isPlainDigit : Anchors.Piece → Bool
  | .plain c => isDigit c
  | .escaped _ => false

/-- The digits with which pieces start. -/
def leadingDigits (ps : List Anchors.Piece) : List Char :=
  (ps.takeWhile isPlainDigit).flatMap Anchors.Piece.chars

/-- Puts the pieces of a source together to parts. -/
def parts : List Anchors.Piece → List Part
  | [] => []
  | .plain c :: rest => .kept (.plain c) :: parts rest
  | .escaped c :: rest =>
    if isDigit c then .reference (c :: leadingDigits rest) :: parts (rest.dropWhile isPlainDigit)
    else if c = '\\' ∧ leadingDigits rest ≠ [] then
      .literal (leadingDigits rest) :: parts (rest.dropWhile isPlainDigit)
    else .kept (.escaped c) :: parts rest
termination_by ps => ps.length
decreasing_by
  all_goals simp only [List.length_cons]
  · exact Nat.lt_succ_self _
  · exact Nat.lt_succ_of_le (List.dropWhile_sublist _).length_le
  · exact Nat.lt_succ_of_le (List.dropWhile_sublist _).length_le
  · exact Nat.lt_succ_self _

/-- The text of a part. -/
def Part.chars : Part → List Char
  | kept p => p.chars
  | reference digits => '\\' :: digits
  | literal digits => '\\' :: '\\' :: digits

/-- Whether a part is a reference. -/
def Part.isReference : Part → Bool
  | reference _ => true
  | _ => false

/-- A part with `image` in place of a reference. -/
def Part.replaced (image : List Char → List Char) : Part → List Char
  | reference digits => image digits
  | part => part.chars

/-- What filling makes of a part. -/
def Part.filled (image : List Char → List Char) : Part → List Char
  | reference digits => image digits
  | literal digits => '\\' :: image digits
  | kept p => p.chars

/-- Whether filling replaces something in a part. -/
def Part.isFilled : Part → Bool
  | kept _ => false
  | _ => true

/-- The quotes and plain characters of a part, as filling reads it. -/
def Part.quotes : Part → List Piece
  | kept (.plain c) => [.plain c]
  | kept (.escaped c) => [.plain '\\', .plain c]
  | reference digits => [.quote digits]
  | literal digits => [.plain '\\', .quote digits]

/-! ## Reading in escape pairs -/

variable {c : Char} {rest source : List Char} {image : List Char → List Char}

theorem isDigit_backslash : isDigit '\\' = false := by decide

/-- Digits are pieces of their own: they stand before the pieces of what follows them. -/
theorem pieces_of_digits (source : List Char) :
    leadingDigits (Anchors.pieces source) = source.takeWhile isDigit ∧
      (Anchors.pieces source).dropWhile isPlainDigit =
        Anchors.pieces (source.dropWhile isDigit) := by
  induction source with
  | nil => exact ⟨rfl, rfl⟩
  | cons c rest ih =>
      by_cases hdigit : isDigit c = true
      · have hescape : c ≠ '\\' := by
          rintro rfl
          rw [isDigit_backslash] at hdigit
          cases hdigit
        rw [Anchors.pieces_of_ne hescape, List.takeWhile_cons_of_pos hdigit,
          List.dropWhile_cons_of_pos hdigit, ← ih.1, ← ih.2]
        simp [leadingDigits, isPlainDigit, hdigit, Anchors.Piece.chars]
      · rw [List.takeWhile_cons_of_neg hdigit, List.dropWhile_cons_of_neg hdigit]
        by_cases hescape : c = '\\'
        · subst hescape
          cases rest with
          | nil => simp [Anchors.pieces, leadingDigits, isPlainDigit, hdigit]
          | cons d rest => simp [Anchors.pieces, leadingDigits, isPlainDigit]
        · rw [Anchors.pieces_of_ne hescape]
          simp [leadingDigits, isPlainDigit, hdigit]

/-- One step of the reading that looks for a backslash and digits. -/
theorem pieces_cons : pieces (c :: rest) =
    if c = '\\' ∧ rest.takeWhile isDigit ≠ [] then
      .quote (rest.takeWhile isDigit) :: pieces (rest.dropWhile isDigit)
    else .plain c :: pieces rest := by
  rw [pieces]

/-- Both readings of a source: the second one can be made from the first. -/
theorem pieces_eq (source : List Char) :
    pieces source = (parts (Anchors.pieces source)).flatMap Part.quotes := by
  induction hlength : source.length using Nat.strongRecOn generalizing source with
  | ind length ih =>
    -- What is left behind some digits is shorter than the source.
    have hbehind : ∀ rest : List Char, rest.length < length →
        pieces (rest.dropWhile isDigit) =
          (parts ((Anchors.pieces rest).dropWhile isPlainDigit)).flatMap Part.quotes := by
      intro rest hrest
      rw [(pieces_of_digits rest).2]
      have hle := (List.dropWhile_sublist (l := rest) isDigit).length_le
      exact ih _ (by omega) _ rfl
    have hnext : ∀ rest : List Char, rest.length < length →
        pieces rest = (parts (Anchors.pieces rest)).flatMap Part.quotes := by
      intro rest hrest
      exact ih _ hrest _ rfl
    cases source with
    | nil => simp [pieces, Anchors.pieces, parts]
    | cons first rest =>
        simp only [List.length_cons] at hlength
        by_cases hescape : first = '\\'
        · subst hescape
          cases rest with
          | nil => simp [pieces, Anchors.pieces, parts, Part.quotes]
          | cons c rest =>
              simp only [List.length_cons] at hlength
              rw [Anchors.pieces, parts, (pieces_of_digits rest).1, pieces_cons]
              by_cases hdigit : isDigit c = true
              · rw [if_pos hdigit, List.flatMap_cons, ← hbehind rest (by omega),
                  List.takeWhile_cons_of_pos hdigit, List.dropWhile_cons_of_pos hdigit]
                simp [Part.quotes]
              · -- The backslash is plain, and the character behind it may start a quote.
                rw [if_neg hdigit, List.takeWhile_cons_of_neg hdigit, pieces_cons]
                by_cases hliteral : c = '\\' ∧ rest.takeWhile isDigit ≠ []
                · rw [if_pos hliteral, if_pos hliteral, List.flatMap_cons,
                    ← hbehind rest (by omega)]
                  simp [Part.quotes]
                · rw [if_neg hliteral, if_neg hliteral, List.flatMap_cons,
                    ← hnext rest (by omega)]
                  simp [Part.quotes]
        · rw [Anchors.pieces_of_ne hescape, parts, List.flatMap_cons, ← hnext rest (by omega),
            pieces_cons, if_neg (not_and_of_not_left _ hescape)]
          rfl

/-! ## What filling replaces -/

/-- The parts of a source lose nothing. -/
theorem flatMap_chars_parts (ps : List Anchors.Piece) :
    (parts ps).flatMap Part.chars = ps.flatMap Anchors.Piece.chars := by
  have hdigits : ∀ rest : List Anchors.Piece,
      leadingDigits rest ++ (rest.dropWhile isPlainDigit).flatMap Anchors.Piece.chars =
        rest.flatMap Anchors.Piece.chars := by
    intro rest
    rw [leadingDigits, ← List.flatMap_append, List.takeWhile_append_dropWhile]
  fun_induction parts ps with
  | case1 => rfl
  | case2 c rest ih => simp [Part.chars, ih]
  | case3 c rest hdigit ih => simp [Part.chars, Anchors.Piece.chars, ih, hdigits]
  | case4 c rest hdigit hliteral ih =>
      obtain ⟨rfl, -⟩ := hliteral
      simp [Part.chars, Anchors.Piece.chars, ih, hdigits]
  | case5 c rest hdigit hliteral ih => simp [Part.chars, ih]

/-- Filling replaces references, and the second half of an escaped backslash with digits. -/
theorem flatMap_subst_pieces (source : List Char) :
    (pieces source).flatMap (Piece.subst image) =
      (parts (Anchors.pieces source)).flatMap (Part.filled image) := by
  have hpart : ∀ part : Part, part.quotes.flatMap (Piece.subst image) = part.filled image := by
    intro part
    cases part with
    | kept p => cases p <;> rfl
    | reference digits => simp [Part.quotes, Part.filled, Piece.subst]
    | literal digits => simp [Part.quotes, Part.filled, Piece.subst]
  rw [pieces_eq, List.flatMap_assoc]
  simp only [hpart]

/-- So it counts both when it looks whether there is something to be replaced. -/
theorem any_isQuote_pieces (source : List Char) :
    (pieces source).any Piece.isQuote = (parts (Anchors.pieces source)).any Part.isFilled := by
  have hpart : ∀ part : Part, part.quotes.any Piece.isQuote = part.isFilled := by
    intro part
    cases part with
    | kept p => cases p <;> rfl
    | reference digits => rfl
    | literal digits => rfl
  rw [pieces_eq, List.any_flatMap]
  simp only [hpart]

/-- No digits follow an escaped backslash. -/
def HasPlainLiterals (source : List Char) : Prop :=
  ∀ digits, .literal digits ∉ parts (Anchors.pieces source)

namespace HasPlainLiterals

/-- Without such digits, references alone are replaced. -/
theorem flatMap_filled (h : HasPlainLiterals source) (image : List Char → List Char) :
    (parts (Anchors.pieces source)).flatMap (Part.filled image) =
      (parts (Anchors.pieces source)).flatMap (Part.replaced image) := by
  have hsame : ∀ part ∈ parts (Anchors.pieces source), part.filled image = part.replaced image := by
    intro part hpart
    cases part with
    | kept p => rfl
    | reference digits => rfl
    | literal digits => exact absurd hpart (h digits)
  rw [List.flatMap_def, List.map_congr_left hsame, ← List.flatMap_def]

/-- Without such digits, references alone count. -/
theorem any_isFilled (h : HasPlainLiterals source) :
    (parts (Anchors.pieces source)).any Part.isFilled =
      (parts (Anchors.pieces source)).any Part.isReference := by
  rw [Bool.eq_iff_iff, List.any_eq_true, List.any_eq_true]
  apply exists_congr
  intro part
  apply and_congr_right
  intro hpart
  cases part with
  | kept p => exact Iff.rfl
  | reference digits => exact Iff.rfl
  | literal digits => exact absurd hpart (h digits)

end HasPlainLiterals

end BackReference

namespace Pattern

open BackReference

variable {ρ : Type}

/-- The pattern of a source, or one that never matches when the engine refuses the source. -/
def orImpossible (engine : RegexEngine ρ) (source : String) : Pattern ρ :=
  match engine.compile source with
  | .ok _ => ofSource engine source
  | .error _ => impossible engine

/-- What filling the pattern of a source does, in terms of the parts of the source. -/
structure FillsReferences (engine : RegexEngine ρ) (source : String) : Prop where
  /-- The source is made of its parts. -/
  whole : (parts (Anchors.pieces source.toList)).flatMap Part.chars = source.toList
  /-- The pattern is filled if it has a reference, or digits behind an escaped backslash. -/
  quotesBegin_eq : (ofSource engine source).quotesBegin =
    (parts (Anchors.pieces source.toList)).any Part.isFilled
  /-- These are replaced by the texts of their groups; the rest stays as it is. -/
  fill_eq : ∀ text found, (ofSource engine source).fill engine text found =
    orImpossible engine (String.ofList ((parts (Anchors.pieces source.toList)).flatMap
      (Part.filled fun digits => quoted (captured text found digits))))
  /-- References alone count, and are replaced, if no digits follow an escaped backslash. -/
  exact : HasPlainLiterals source.toList →
    (ofSource engine source).quotesBegin =
        (parts (Anchors.pieces source.toList)).any Part.isReference ∧
      ∀ text found, (ofSource engine source).fill engine text found =
        orImpossible engine (String.ofList ((parts (Anchors.pieces source.toList)).flatMap
          (Part.replaced fun digits => quoted (captured text found digits))))

/-- Filling replaces the references of a source, and digits behind an escaped backslash together
with its second half. -/
theorem references_filled (engine : RegexEngine ρ) (source : String) :
    FillsReferences engine source := by
  have hquotes : (ofSource engine source).quotesBegin =
      (parts (Anchors.pieces source.toList)).any Part.isFilled := by
    rw [quotesBegin, source_ofSource, occur_eq, any_isQuote_pieces]
  have hfill (text : Array Char) (found : Found) :
      (ofSource engine source).fill engine text found =
        orImpossible engine (String.ofList ((parts (Anchors.pieces source.toList)).flatMap
          (Part.filled fun digits => quoted (captured text found digits)))) := by
    rw [fill_eq, filledBy, filledSource, source_ofSource, flatMap_subst_pieces]
    rfl
  refine ⟨?_, hquotes, hfill, ?_⟩
  · rw [flatMap_chars_parts, Anchors.flatMap_chars_pieces]
  · intro hplain
    refine ⟨hquotes.trans hplain.any_isFilled, ?_⟩
    intro text found
    rw [hfill, hplain.flatMap_filled fun digits => quoted (captured text found digits)]

end Pattern

/-- In this source an escaped backslash stands before a digit.  There is no reference, so that it
should stay as it is, but what the first group has matched is put in. -/
theorem BackReference.escaped_backslash_filled :
    let source := ['\\', '\\', '1']
    let found : Found := ⟨⟨0, 1⟩, [some ⟨0, 1⟩]⟩
    let image := fun digits => quoted (captured #[':'] found digits)
    parts (Anchors.pieces source) = [.literal ['1']] ∧
      (parts (Anchors.pieces source)).any Part.isReference = false ∧
      (parts (Anchors.pieces source)).flatMap (Part.replaced image) = source ∧
      occur source = true ∧ substitute source #[':'] found = ['\\', ':'] := by
  intro source found image
  have hparts : parts (Anchors.pieces source) = [.literal ['1']] := by cbv
  refine ⟨hparts, ?_, ?_, by decide, by decide⟩
  · rw [hparts]
    rfl
  · rw [hparts]
    rfl

end ScopeCheck
