import ScopeCheck.Pattern.Basic

/-!
# Literals of a pattern

In the default syntax a character of a pattern stands for itself unless it has a meaning of its own,
and behind a backslash it stands for itself unless it is a letter or a digit.  A source may be made
of such literals only; it spells a text then.

* `Spells` says which text a source spells, and `spells_quoted` that a quoted text spells the text;
* `RegexEngine.ReadsLiterals` is what is assumed of an engine, one literal after the other;
* `RegexEngine.ReadsLiterals.finds`: what spells a text finds the first place of the text.
-/

namespace ScopeCheck

open BackReference (isMeta quoted)

variable {src rest word : List Char} {c : Char} {text : Array Char}

/-! ## Where a word stands -/

/-- The word stands in the text at this position. -/
structure StandsAt (word : List Char) (text : Array Char) (pos : Nat) : Prop where
  pos_le : pos ≤ text.size
  isPrefix : word <+: text.toList.drop pos

/-- The first position, from `start` on, at which the word stands. -/
structure StandsFirst (word : List Char) (text : Array Char) (start pos : Nat) : Prop where
  start_le : start ≤ pos
  stands : StandsAt word text pos
  not_before : ∀ earlier, start ≤ earlier → earlier < pos → ¬ StandsAt word text earlier

/-- What a search for a word has to yield: its first place, without any groups, or nothing when it
has none. -/
inductive FindsWord (word : List Char) (text : Array Char) (start : Nat) : Option Found → Prop
  | found {pos : Nat} (hfirst : StandsFirst word text start pos) :
      FindsWord word text start (some ⟨⟨pos, pos + word.length⟩, []⟩)
  | missing (hnone : ∀ pos, start ≤ pos → ¬ StandsAt word text pos) :
      FindsWord word text start none

/-- Where the word does not stand, it is found behind. -/
theorem FindsWord.of_not_standsAt {start : Nat} {result : Option Found}
    (hstands : ¬ StandsAt word text start) (h : FindsWord word text (start + 1) result) :
    FindsWord word text start result := by
  have hbehind : ∀ pos, start ≤ pos → StandsAt word text pos → start + 1 ≤ pos := by
    intro pos hle hpos
    refine Nat.lt_of_le_of_ne hle ?_
    rintro rfl
    exact hstands hpos
  cases h with
  | found hfirst =>
      refine .found ⟨Nat.le_of_succ_le hfirst.start_le, hfirst.stands, ?_⟩
      intro earlier hle hlt hother
      exact hfirst.not_before earlier (hbehind earlier hle hother) hlt hother
  | missing hnone =>
      refine .missing ?_
      intro pos hle hpos
      exact hnone pos (hbehind pos hle hpos) hpos

/-- The match of a word at a position. -/
def wordAt (word : List Char) (text : Array Char) (pos : Nat) : Option Found :=
  if word <+: text.toList.drop pos then some ⟨⟨pos, pos + word.length⟩, []⟩ else none

theorem wordAt_nil (text : Array Char) (pos : Nat) : wordAt [] text pos = some ⟨⟨pos, pos⟩, []⟩ :=
  if_pos List.nil_prefix

/-- A word is matched from its first character on. -/
theorem wordAt_cons (c : Char) (word : List Char) (text : Array Char) (pos : Nat) :
    wordAt (c :: word) text pos =
      if text[pos]? = some c then
        (wordAt word text (pos + 1)).map fun found => ⟨⟨pos, found.whole.stop⟩, found.groups⟩
      else none := by
  unfold wordAt
  by_cases hlt : pos < text.size
  · have hdrop : text.toList.drop pos = text[pos] :: text.toList.drop (pos + 1) :=
      List.drop_eq_getElem_cons hlt
    have hchar : text[pos]? = some c ↔ text[pos] = c := by
      rw [Array.getElem?_eq_getElem hlt, Option.some_inj]
    rw [hdrop]
    by_cases hfirst : text[pos] = c
    · rw [if_pos (hchar.2 hfirst), hfirst]
      by_cases hothers : word <+: text.toList.drop (pos + 1)
      · rw [if_pos (List.cons_prefix_cons.2 ⟨rfl, hothers⟩), if_pos hothers]
        simp only [Option.map_some, List.length_cons, Nat.add_assoc, Nat.add_comm 1]
      · rw [if_neg fun h => hothers (List.cons_prefix_cons.1 h).2, if_neg hothers]
        rfl
    · rw [if_neg fun h => hfirst (hchar.1 h),
        if_neg fun h => hfirst (List.cons_prefix_cons.1 h).1.symm]
  · have hdrop : text.toList.drop pos = [] := List.drop_eq_nil_of_le (Nat.le_of_not_lt hlt)
    rw [hdrop, Array.getElem?_eq_none (Nat.le_of_not_lt hlt)]
    simp

/-- The positions are tried from the left.  The induction is on the number of positions. -/
theorem findsWord_findSome? {tryAt : Nat → Option Found}
    (htry : ∀ pos, pos ≤ text.size → tryAt pos = wordAt word text pos) {start count : Nat}
    (hcount : count = text.size + 1 - start) :
    FindsWord word text start ((List.range' start count).findSome? tryAt) := by
  induction count generalizing start with
  | zero =>
      refine .missing fun pos hle hstands => ?_
      have hsize := hstands.pos_le
      omega
  | succ count ih =>
      have hstart : start ≤ text.size := by omega
      rw [List.range'_succ, List.findSome?_cons, htry start hstart, wordAt]
      by_cases hword : word <+: text.toList.drop start
      · rw [if_pos hword]
        refine .found ⟨Nat.le_refl _, ⟨hstart, hword⟩, fun earlier hle hlt => ?_⟩
        omega
      · rw [if_neg hword]
        exact .of_not_standsAt (fun h => hword h.isPrefix) (ih (by omega))

/-! ## Literals -/

/-- The characters with a meaning of their own in the default syntax, outside of a class. -/
def metaCharacters : List Char :=
  ['\\', '.', '|', '(', ')', '[', ']', '{', '}', '*', '+', '?', '^', '$']

/-- A part of a source that stands for a character. -/
inductive IsLiteral : List Char → Char → Prop
  | plain {c : Char} (h : c ∉ metaCharacters) : IsLiteral [c] c
  | escaped {c : Char} (h : c.isAlphanum = false) : IsLiteral ['\\', c] c

/-- A source that is made of literals, and the text that it spells. -/
inductive Spells : List Char → List Char → Prop
  | nil : Spells [] []
  | cons {src rest word : List Char} {c : Char} (first : IsLiteral src c)
      (others : Spells rest word) : Spells (src ++ rest) (c :: word)

theorem Spells.append {src' word' : List Char} (h : Spells src word) (h' : Spells src' word') :
    Spells (src ++ src') (word ++ word') := by
  induction h with
  | nil => exact h'
  | cons first _ ih =>
      rw [List.append_assoc]
      exact .cons first ih

/-! ## Quoted texts -/

/-- The letters and digits of the ASCII range. -/
theorem code_of_isAlphanum (h : c.isAlphanum = true) :
    (48 ≤ c.toNat ∧ c.toNat ≤ 57) ∨ (65 ≤ c.toNat ∧ c.toNat ≤ 90) ∨
      (97 ≤ c.toNat ∧ c.toNat ≤ 122) := by
  have hranges : ((decide ('A'.val ≤ c.val ∧ c.val ≤ 'Z'.val) ||
      'a'.val ≤ c.val && c.val ≤ 'z'.val) || '0'.val ≤ c.val && c.val ≤ '9'.val) = true := h
  simp only [Bool.or_eq_true, Bool.and_eq_true, decide_eq_true_eq, UInt32.le_iff_toNat_le]
    at hranges
  have hcode : c.toNat = c.val.toNat := rfl
  have hbounds : ('0'.val.toNat = 48 ∧ '9'.val.toNat = 57) ∧
      ('A'.val.toNat = 65 ∧ 'Z'.val.toNat = 90) ∧ 'a'.val.toNat = 97 ∧ 'z'.val.toNat = 122 := by
    decide
  rw [hcode]
  omega

theorem not_isAlphanum_of_isBlank (h : Text.isBlank c = true) : c.isAlphanum = false := by
  rw [Bool.eq_false_iff]
  intro halphanum
  have hcode := code_of_isAlphanum halphanum
  simp only [Text.isBlank, Bool.or_eq_true, Bool.and_eq_true, decide_eq_true_eq, beq_iff_eq] at h
  omega

/-- A character that is escaped is no letter and no digit. -/
theorem not_isAlphanum_of_isMeta (h : isMeta c = true) : c.isAlphanum = false := by
  rw [isMeta, Bool.or_eq_true] at h
  rcases h with hsign | hblank
  · have hsigns : ['-', '\\', '{', '}', '*', '+', '?', '|', '^', '$', '.', ',', '[', ']', '(', ')',
        '#'].all (fun sign => !sign.isAlphanum) = true := by decide
    simpa using List.all_eq_true.1 hsigns c (List.contains_iff_mem.1 hsign)
  · exact not_isAlphanum_of_isBlank hblank

/-- All characters with a meaning of their own are escaped. -/
theorem isMeta_of_mem_metaCharacters (h : c ∈ metaCharacters) : isMeta c = true := by
  have hall : metaCharacters.all isMeta = true := by decide
  exact List.all_eq_true.1 hall c h

/-- A quoted text spells the text. -/
theorem spells_quoted (word : List Char) : Spells (quoted word) word := by
  induction word with
  | nil => exact .nil
  | cons c word ih =>
      have hfirst : IsLiteral (if isMeta c then ['\\', c] else [c]) c := by
        split
        · rename_i hmeta
          exact .escaped (not_isAlphanum_of_isMeta hmeta)
        · rename_i hplain
          exact .plain fun hmem => hplain (isMeta_of_mem_metaCharacters hmem)
      exact .cons hfirst ih

/-! ## Engines -/

variable {ρ : Type}

/-- What is assumed of an engine: the default syntax without the extended mode and without case
folding.  `matchAt` is its attempt to match at a position of a text, where the search has started at
another one. -/
structure RegexEngine.ReadsLiterals (engine : RegexEngine ρ)
    (matchAt : ρ → Array Char → Nat → Nat → Option Found) : Prop where
  /-- A search yields the match at the first position that has one. -/
  leftmost : ∀ (regex : ρ) (text : Array Char) (start : Nat), start ≤ text.size →
    engine.search regex text start =
      (List.range' start (text.size + 1 - start)).findSome? (matchAt regex text start)
  /-- The empty pattern matches everywhere, and takes nothing. -/
  empty : ∃ regex, engine.compile "" = .ok regex ∧ ∀ (text : Array Char) (start pos : Nat),
    pos ≤ text.size → matchAt regex text start pos = some ⟨⟨pos, pos⟩, []⟩
  /-- A literal before other ones matches its character, and then they are matched. -/
  literal : ∀ {src rest word : List Char} {c : Char} {others : ρ}, IsLiteral src c →
    Spells rest word → engine.compile (String.ofList rest) = .ok others →
      ∃ regex, engine.compile (String.ofList (src ++ rest)) = .ok regex ∧
        ∀ (text : Array Char) (start pos : Nat), pos ≤ text.size →
          matchAt regex text start pos =
            if text[pos]? = some c then
              (matchAt others text start (pos + 1)).map fun found =>
                ⟨⟨pos, found.whole.stop⟩, found.groups⟩
            else none

namespace RegexEngine.ReadsLiterals

variable {engine : RegexEngine ρ} {matchAt : ρ → Array Char → Nat → Nat → Option Found}
  (hengine : engine.ReadsLiterals matchAt)

include hengine

/-- What spells a word matches the word.  The induction is on the literals. -/
theorem exists_regex (hspells : Spells src word) :
    ∃ regex, engine.compile (String.ofList src) = .ok regex ∧
      ∀ (text : Array Char) (start pos : Nat), pos ≤ text.size →
        matchAt regex text start pos = wordAt word text pos := by
  induction hspells with
  | nil =>
      obtain ⟨regex, hregex, hmatches⟩ := hengine.empty
      refine ⟨regex, hregex, fun text start pos hpos => ?_⟩
      rw [hmatches text start pos hpos, wordAt_nil]
  | @cons src rest word c first hothers ih =>
      obtain ⟨others, hcompile, hmatches⟩ := ih
      obtain ⟨regex, hregex, hfirst⟩ := hengine.literal first hothers hcompile
      refine ⟨regex, hregex, fun text start pos hpos => ?_⟩
      rw [hfirst text start pos hpos, wordAt_cons]
      by_cases hchar : text[pos]? = some c
      · obtain ⟨hlt, -⟩ := Array.getElem?_eq_some_iff.1 hchar
        rw [if_pos hchar, if_pos hchar, hmatches text start (pos + 1) hlt]
      · rw [if_neg hchar, if_neg hchar]

/-- What spells a word finds the first place of the word. -/
theorem finds (hspells : Spells src word) :
    ∃ regex, engine.compile (String.ofList src) = .ok regex ∧ ∀ (text : Array Char) (start : Nat),
      start ≤ text.size → FindsWord word text start (engine.search regex text start) := by
  obtain ⟨regex, hregex, hmatches⟩ := hengine.exists_regex hspells
  refine ⟨regex, hregex, fun text start hstart => ?_⟩
  rw [hengine.leftmost regex text start hstart]
  exact findsWord_findSome? (hmatches text start) rfl

end RegexEngine.ReadsLiterals

end ScopeCheck
