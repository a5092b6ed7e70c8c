import ScopeCheck.Proofs.Pattern.Literals
import ScopeCheck.Regex.Engine

/-!
# The engine of this library reads literals

The pattern reader takes the literals of a source for its tokens and collects their characters in
one string, and the matcher goes over a string in one step.

* `Token.next_literal`: a literal is read as its character, whatever follows it;
* `compileChars_of_spells`: a source that spells a text is compiled to `literalRegex`;
* `matchAt_literalRegex`: this matches the text at the positions at which it stands;
* `searchFrom_eq`: the positions are tried from the left.

`engine_readsLiterals` is what follows for the engine.
-/

namespace ScopeCheck

namespace Regex

variable {groups : Groups} {c : Char} {src w rest : List Char} {text : Array Char}

/-! ## Reading characters -/

theorem Flags.typeSet?_eq_none {flags : Flags} (h : c.isAlphanum = false) :
    flags.typeSet? c = none := by
  unfold Flags.typeSet?
  split
  all_goals try exact absurd h (by decide)
  rfl

theorem escapedValue_eq (h : c.isAlphanum = false) (fuel : Nat) :
    escapedValue (fuel + 1) (c :: rest) = .ok (c.toNat, rest) := by
  unfold escapedValue
  dsimp only
  split
  all_goals try exact absurd h (by decide)
  rfl

namespace Token

/-- Behind a backslash, a character that is no letter and no digit stands for itself. -/
theorem escaped_eq (h : c.isAlphanum = false) :
    escaped {} groups (c :: rest) = .ok (.char c, rest) := by
  have hdecimal : Text.Numeral.isDecimal c = false := by
    rw [Char.isAlphanum, Bool.or_eq_false_iff] at h
    exact h.2
  unfold escaped
  dsimp only
  rw [Flags.typeSet?_eq_none h]
  dsimp only
  split
  all_goals try exact absurd h (by decide)
  rw [hdecimal, if_neg Bool.false_ne_true, List.length_cons, escapedValue_eq h]
  simp [bind, Except.bind, pure, Except.pure]

/-- Outside of the extended notation nothing but comments is skipped. -/
theorem skipIgnored_eq (hopening : c ≠ '(') (fuel : Nat) :
    skipIgnored {} (fuel + 1) (c :: rest) = .ok (c :: rest) := by
  by_cases hsharp : c = '#'
  · subst hsharp
    rfl
  · rw [skipIgnored]
    · rfl
    · rintro _ rfl
      exact absurd rfl hopening
    · exact hsharp

theorem next_nil : next {} groups [] = .ok (.endOfPattern, []) := rfl

theorem next_escape : next {} groups ('\\' :: rest) = escaped {} groups rest := by
  rw [next, skipIgnored_eq (by decide)]
  rfl

/-- A character without a meaning of its own stands for itself. -/
theorem next_plain (h : c ∉ metaCharacters) :
    next {} groups (c :: rest) = .ok (.char c, rest) := by
  have hne : ∀ {other : Char}, other ∈ metaCharacters → c ≠ other := by
    rintro other hother rfl
    exact h hother
  rw [next, skipIgnored_eq (hne (by decide))]
  dsimp only [bind, Except.bind]
  split
  all_goals try exact absurd rfl (hne (by decide))
  rfl

/-- A literal is read as its character. -/
theorem next_literal (h : IsLiteral src c) :
    next {} groups (src ++ rest) = .ok (.char c, rest) := by
  cases h with
  | plain hplain => exact next_plain hplain
  | escaped hescaped => exact next_escape.trans (escaped_eq hescaped)

end Token

/-! ## The pattern of a text -/

/-- The tree of a pattern that stands for a text. -/
def literalNode (w : List Char) : Node :=
  if w = [] then .empty else .string (w.map Char.toNat)

/-- The pattern that stands for a text. -/
def literalRegex (w : List Char) : Regex :=
  ⟨literalNode w, 0, [], bodiesOf (literalNode w) 0⟩

theorem Cursor.next_eq {cursor : Cursor} {token : Token}
    (h : Token.next {} cursor.groups cursor.src = .ok (token, rest)) :
    cursor.next {} = .ok (token, { cursor with src := rest }) := by
  rw [Cursor.next, h]
  rfl

section Reading

variable {fuel : Nat} {run : List Nat} {cursor : Cursor}

theorem length_le_of_spells (h : Spells src w) : w.length ≤ src.length := by
  induction h with
  | nil => exact Nat.le_refl 0
  | cons first _ ih =>
      rw [List.length_append, List.length_cons]
      cases first with
      | plain => simp only [List.length_cons, List.length_nil]; omega
      | escaped => simp only [List.length_cons, List.length_nil]; omega

/-- All characters are collected.  The induction is on the literals that follow the first one. -/
theorem literalRun_of_spells (h : Spells src w) (hsrc : cursor.src = src)
    (hfuel : w.length < fuel) :
    literalRun {} fuel run (.char c) cursor =
      .ok (run.reverse ++ (c :: w).map Char.toNat, .endOfPattern, { cursor with src := [] }) := by
  induction h generalizing fuel run c cursor with
  | nil =>
      obtain ⟨fuel, rfl⟩ := Nat.exists_eq_add_one_of_ne_zero (Nat.ne_zero_of_lt hfuel)
      have hnext : Token.next {} cursor.groups cursor.src = .ok (.endOfPattern, []) := by
        rw [hsrc]
        exact Token.next_nil
      rw [literalRun, Cursor.next_eq hnext]
      simp [literalRun, bind, Except.bind]
  | @cons first rest w d hfirst _ ih =>
      obtain ⟨fuel, rfl⟩ := Nat.exists_eq_add_one_of_ne_zero (Nat.ne_zero_of_lt hfuel)
      have hnext : Token.next {} cursor.groups cursor.src = .ok (.char d, rest) := by
        rw [hsrc]
        exact Token.next_literal hfirst
      rw [literalRun, Cursor.next_eq hnext]
      simp only [bind, Except.bind]
      have hmid : ({ cursor with src := rest } : Cursor).src = rest := rfl
      rw [ih hmid (Nat.lt_of_succ_lt_succ hfuel)]
      simp

theorem readItem_of_spells (h : Spells cursor.src w) :
    readItem (fuel + 1) {} false 1 (.char c) cursor =
      .ok ⟨.string ((c :: w).map Char.toNat), .endOfPattern, { cursor with src := [] }⟩ := by
  have hfuel : w.length < cursor.src.length + 2 :=
    Nat.lt_of_le_of_lt (length_le_of_spells h) (Nat.lt_add_of_pos_right Nat.two_pos)
  rw [readItem, literalRun_of_spells h rfl hfuel]
  rfl

theorem readAlternatives_of_spells (h : Spells cursor.src w) :
    readAlternatives (fuel + 3) {} false 1 (.char c) cursor =
      .ok ⟨[.string ((c :: w).map Char.toNat)], .endOfPattern, { cursor with src := [] }⟩ := by
  rw [readAlternatives, readBranch, readItem_of_spells h]
  rfl

theorem readAlternatives_end :
    readAlternatives (fuel + 3) {} false 1 .endOfPattern cursor =
      .ok ⟨[.empty], .endOfPattern, cursor⟩ := by
  rw [readAlternatives, readBranch, readItem]
  rfl

end Reading

/-- Literals are read as one string. -/
theorem readPattern_of_spells (h : Spells src w) :
    readPattern src = .ok (literalNode w, ⟨0, []⟩) := by
  cases h with
  | nil =>
      rw [readPattern]
      dsimp only
      rw [Token.next_nil]
      dsimp only [bind, Except.bind]
      rw [readAlternatives_end]
      rfl
  | cons first others =>
      rw [readPattern]
      dsimp only
      rw [Token.next_literal first]
      dsimp only [bind, Except.bind]
      rw [readAlternatives_of_spells others]
      rfl

theorem compileChars_of_spells (h : Spells src w) : compileChars src = .ok (literalRegex w) := by
  rw [compileChars, readPattern_of_spells h]
  cases w with
  | nil => rfl
  | cons c w => rfl

/-- What spells a text is compiled to the pattern of the text. -/
theorem compile_of_spells (h : Spells src w) :
    engine.compile (String.ofList src) = .ok (literalRegex w) := by
  have hcompile : compile (String.ofList src) = .ok (literalRegex w) := by
    rw [compile, String.toList_ofList, compileChars_of_spells h]
  show (compile (String.ofList src)).mapError Error.message = _
  rw [hcompile]
  rfl

/-! ## Matching a text -/

theorem startsWith_iff {pos : Nat} (hpos : pos ≤ text.size) :
    startsWith text text.size pos (w.map Char.toNat) = true ↔ w <+: text.toList.drop pos := by
  induction w generalizing pos with
  | nil => simp [startsWith]
  | cons c w ih =>
      rw [List.map_cons, startsWith]
      by_cases hlt : pos < text.size
      · have hdrop : text.toList.drop pos = text[pos] :: text.toList.drop (pos + 1) :=
          List.drop_eq_getElem_cons hlt
        have hchar : (text[pos].toNat == c.toNat) = true ↔ c = text[pos] := by
          rw [beq_iff_eq, Char.toNat_inj, eq_comm]
        rw [Array.getElem?_eq_getElem hlt, hdrop, List.cons_prefix_cons, ← ih hlt, ← hchar]
        simp [hlt]
      · have hdrop : text.toList.drop pos = [] := List.drop_eq_nil_of_le (Nat.le_of_not_lt hlt)
        rw [hdrop]
        simp [hlt]

theorem step_literalNode (re : Regex) (subject : Subject) (s : State) :
    step re subject ⟨[.node (literalNode w)], s, []⟩ =
      stepTo s [] []
        (if startsWith subject.text s.limit s.pos (w.map Char.toNat) then some (s.pos + w.length)
          else none) := by
  cases w with
  | nil => rfl
  | cons c w =>
      rw [← List.length_map Char.toNat]
      rfl

/-- The machine goes over the whole text in one step, and is done. -/
theorem run_literalNode (re : Regex) (subject : Subject) (s : State) (fuel : Nat) :
    run re subject (fuel + 2) ⟨[.node (literalNode w)], s, []⟩ =
      if startsWith subject.text s.limit s.pos (w.map Char.toNat) then
        some { s with pos := s.pos + w.length }
      else none := by
  rw [run, step_literalNode]
  by_cases hstarts : startsWith subject.text s.limit s.pos (w.map Char.toNat) = true
  · rw [if_pos hstarts, if_pos hstarts]
    rfl
  · rw [if_neg hstarts, if_neg hstarts]
    rfl

/-- The pattern of a text matches where the text stands, wherever the search has started. -/
theorem matchAt_literalRegex {origin pos : Nat} (hpos : pos ≤ text.size) :
    matchAt (literalRegex w) ⟨text, origin⟩ pos = wordAt w text pos := by
  have hlimit : stepLimit = 19999998 + 2 := rfl
  rw [matchAt, hlimit]
  dsimp only
  rw [literalRegex, run_literalNode, wordAt]
  dsimp only
  by_cases hword : w <+: text.toList.drop pos
  · rw [if_pos hword, if_pos ((startsWith_iff hpos).2 hword)]
    simp
  · rw [if_neg hword, if_neg fun h => hword ((startsWith_iff hpos).1 h)]
    rfl

/-! ## Searching -/

/-- The positions are tried from the left. -/
theorem searchFrom_eq (re : Regex) (subject : Subject) (count pos : Nat) :
    searchFrom re subject count pos = (List.range' pos count).findSome? (matchAt re subject) := by
  induction count generalizing pos with
  | zero => rfl
  | succ count ih =>
      rw [searchFrom, List.range'_succ, List.findSome?_cons, ih]
      cases matchAt re subject pos <;> rfl

/-- An attempt of the matcher at a position, where the search has started at another one. -/
def attempt (re : Regex) (text : Array Char) (start pos : Nat) : Option Found :=
  matchAt re ⟨text, start⟩ pos

/-- The engine of this library reads literals. -/
theorem engine_readsLiterals : engine.ReadsLiterals attempt where
  leftmost := fun re text start _ => searchFrom_eq re ⟨text, start⟩ _ start
  empty := by
    refine ⟨literalRegex [], compile_of_spells .nil, fun text start pos hpos => ?_⟩
    exact (matchAt_literalRegex hpos).trans (wordAt_nil text pos)
  literal := by
    intro src rest w c others hfirst hothers hcompile
    obtain rfl : literalRegex w = others :=
      Except.ok.inj ((compile_of_spells hothers).symm.trans hcompile)
    refine ⟨literalRegex (c :: w), compile_of_spells (.cons hfirst hothers), ?_⟩
    intro text start pos hpos
    rw [attempt, matchAt_literalRegex hpos, wordAt_cons]
    by_cases hchar : text[pos]? = some c
    · obtain ⟨hlt, -⟩ := Array.getElem?_eq_some_iff.1 hchar
      rw [if_pos hchar, if_pos hchar, attempt, matchAt_literalRegex hlt]
    · rw [if_neg hchar, if_neg hchar]

end Regex

end ScopeCheck
