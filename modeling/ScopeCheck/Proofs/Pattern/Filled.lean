import ScopeCheck.Proofs.Pattern.Refusal

/-!
# What a pattern is filled with

A source is read from the left as quotes, each a backslash with the digits that follow it directly,
and plain characters.  Filling a pattern puts the text of a group in the place of every quote and
leaves the rest as it is.

* `BackReference.substitute_eq`: this is what `BackReference.substitute` computes;
* `BackReference.occur_eq`: a source quotes when there is a quote in it;
* `Pattern.fill_eq`: a pattern that quotes is filled with the texts of a match;
* `Pattern.filledBy_of_not_quotes`: a pattern that has been read and quotes nothing stays as it is.
-/

namespace ScopeCheck

namespace BackReference

/-- A piece of a source. -/
inductive Piece
  | plain (c : Char)
  /-- A backslash with these digits. -/
  | quote (digits : List Char)
  deriving DecidableEq, Repr

/-- Reads a source.  A backslash without digits behind it is a plain character. -/
def pieces : List Char → List Piece
  | [] => []
  | c :: rest =>
    let digits := rest.takeWhile isDigit
    if c = '\\' ∧ digits ≠ [] then .quote digits :: pieces (rest.dropWhile isDigit)
    else .plain c :: pieces rest
termination_by source => source.length
decreasing_by
  all_goals simp only [List.length_cons]
  · exact Nat.lt_succ_of_le (List.dropWhile_sublist _).length_le
  · exact Nat.lt_succ_self _

/-- Whether a piece is a quote. -/
def Piece.isQuote : Piece → Bool
  | plain _ => false
  | quote _ => true

/-- A piece with `image` in place of a quote. -/
def Piece.subst (image : List Char → List Char) : Piece → List Char
  | plain c => [c]
  | quote digits => image digits

/-! ## The substitution -/

section Substitution

variable {image : List Char → List Char}

/-- Behind a backslash all digits are read, and then what follows them. -/
theorem substituteFrom_some (run source : List Char) :
    substituteFrom image (some run) source =
      (if run.reverse ++ source.takeWhile isDigit = [] then ['\\']
        else image (run.reverse ++ source.takeWhile isDigit)) ++
      substituteFrom image none (source.dropWhile isDigit) := by
  induction source generalizing run with
  | nil => cases run <;> simp [substituteFrom]
  | cons c rest ih =>
      by_cases hdigit : isDigit c = true
      · rw [substituteFrom, if_pos hdigit, ih]
        simp [hdigit]
      · -- The run is complete.  A backslash behind it may start another one.
        rw [List.takeWhile_cons_of_neg hdigit, List.dropWhile_cons_of_neg hdigit, List.append_nil]
        by_cases hescape : c = '\\'
        · subst hescape
          cases run <;> simp [substituteFrom, hdigit]
        · cases run <;> simp [substituteFrom, hdigit, hescape]

theorem substituteFrom_none (source : List Char) :
    substituteFrom image none source = (pieces source).flatMap (Piece.subst image) := by
  fun_induction pieces source with
  | case1 => rfl
  | case2 c rest digits hquote ih =>
      obtain ⟨rfl, hdigits⟩ := hquote
      rw [substituteFrom, if_pos rfl, substituteFrom_some, List.reverse_nil, List.nil_append,
        if_neg hdigits, ih]
      rfl
  | case3 c rest digits hplain ih =>
      rw [substituteFrom]
      split
      · rename_i hescape
        -- A backslash without digits: what follows it is read as if it stood alone.
        have hnone : rest.takeWhile isDigit = [] :=
          Decidable.byContradiction fun hdigits => hplain ⟨hescape, hdigits⟩
        have hrest : rest.dropWhile isDigit = rest := by
          have hsplit := rest.takeWhile_append_dropWhile (p := isDigit)
          rwa [hnone, List.nil_append] at hsplit
        rw [substituteFrom_some, List.reverse_nil, List.nil_append, if_pos hnone, hrest, ih,
          hescape]
        rfl
      · rw [ih]
        rfl

end Substitution

/-- Every quote is replaced by the text of its group, as a pattern that stands for it. -/
theorem substitute_eq (source : List Char) (text : Array Char) (found : Found) :
    substitute source text found =
      (pieces source).flatMap (Piece.subst fun digits => quoted (captured text found digits)) :=
  substituteFrom_none source

/-! ## Quotes -/

theorem occur_cons (c : Char) (rest : List Char) :
    occur (c :: rest) = (decide (c = '\\' ∧ rest.takeWhile isDigit ≠ []) || occur rest) := by
  cases rest with
  | nil => by_cases hescape : c = '\\' <;> simp [occur, hescape]
  | cons d rest =>
      by_cases hescape : c = '\\'
      · subst hescape
        rw [occur, List.takeWhile_cons]
        cases isDigit d <;> simp
      · simp [occur, hescape]

/-- A source quotes when one of its pieces does. -/
theorem occur_eq (source : List Char) : occur source = (pieces source).any Piece.isQuote := by
  fun_induction pieces source with
  | case1 => rfl
  | case2 c rest digits hquote ih =>
      rw [occur_cons, decide_eq_true hquote]
      rfl
  | case3 c rest digits hplain ih =>
      rw [occur_cons, decide_eq_false hplain, ih]
      rfl

/-- Without quotes nothing changes. -/
theorem flatMap_subst_of_not_occur {source : List Char} (h : occur source = false)
    (image : List Char → List Char) : (pieces source).flatMap (Piece.subst image) = source := by
  rw [occur_eq] at h
  fun_induction pieces source with
  | case1 => rfl
  | case2 c rest digits hquote ih => cases h
  | case3 c rest digits hplain ih =>
      rw [List.any_cons, Piece.isQuote, Bool.false_or] at h
      rw [List.flatMap_cons, ih h]
      rfl

end BackReference

/-! ## Filled patterns -/

namespace Pattern

variable {ρ : Type} {engine : RegexEngine ρ}

/-- A source with the texts that a match gave to the groups that it quotes. -/
def filledSource (source : String) (text : Array Char) (found : Found) : String :=
  let image (digits : List Char) : List Char :=
    BackReference.quoted (BackReference.captured text found digits)
  String.ofList ((BackReference.pieces source.toList).flatMap (BackReference.Piece.subst image))

/-- The pattern that a source becomes with the texts of a match in it; when the engine refuses it,
a pattern of the one character that never occurs. -/
def filledBy (engine : RegexEngine ρ) (source : String) (text : Array Char) (found : Found) :
    Pattern ρ :=
  match engine.compile (filledSource source text found) with
  | .ok _ => ofSource engine (filledSource source text found)
  | .error _ => ofSource engine "\uFFFF"

theorem fill_eq (p : Pattern ρ) (text : Array Char) (found : Found) :
    p.fill engine text found = filledBy engine p.source text found := by
  unfold fill filledBy
  rw [BackReference.substitute_eq]
  simp only [both_ofSource]
  rfl

/-- A pattern that has been read stays as it is if it quotes nothing. -/
theorem filledBy_of_not_quotes {source : String} {p : Pattern ρ}
    (hread : read engine source = .ok p) (hquotes : p.quotesBegin = false) (text : Array Char)
    (found : Found) : filledBy engine p.source text found = p := by
  obtain ⟨rfl, haccepted⟩ := read_eq_ok hread
  rw [source_ofSource]
  rw [quotesBegin, source_ofSource] at hquotes
  have hsame : filledSource source text found = source := by
    rw [filledSource, BackReference.flatMap_subst_of_not_occur hquotes, String.ofList_toList]
  rcases haccepted with hquotes' | ⟨own, regex, heq, hcompile⟩
  · rw [quotesBegin, source_ofSource, hquotes] at hquotes'
    cases hquotes'
  · obtain rfl : source = own := by
      have hsource := congrArg Pattern.source heq
      rwa [source_ofSource, source_ofSource] at hsource
    rw [filledBy, hsame, hcompile]

end Pattern

end ScopeCheck
