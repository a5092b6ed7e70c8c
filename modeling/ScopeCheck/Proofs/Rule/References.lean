import ScopeCheck.Rule.Template

/-!
# References in scope names

A scope name is read from the left as references and plain characters.  A reference is a dollar sign
with all the digits behind it, or digits in braces with a change of letter case.  The name that
results is put together from what stands for the pieces, so that nothing that has been put in is
read again.

* `Template.IsReading` are the pieces of a name; `Template.exists_reading`: every name has them;
* `Template.reference?_eq_some_iff` says which references the reader finds, in these terms;
* `Template.Replaces` is what stands for a piece.  `groupNumber?_eq_some_iff` says which digits name
  a group;
* `Template.fillFrom_eq` is the pass over a name, and `Template.occur_iff` the search for a
  reference that decides whether the pass is made.

`Template.fills_in_one_pass` is the result.
-/

namespace ScopeCheck

/-! ## Numbers of groups -/

/-- These are ASCII digits, of a number that groups can have. -/
structure NamesGroup (digits : List Char) (number : Nat) : Prop where
  ne_nil : digits ≠ []
  areDecimal : ∀ c ∈ digits, Text.Numeral.isDecimal c = true
  value_eq : Text.Numeral.value 10 digits = number
  lt_bound : number < groupNumberBound

/-- The digits of base ten are the ten of the ASCII range. -/
theorem isSome_digitOf?_ten (c : Char) :
    (Text.Numeral.digitOf? 10 c).isSome = Text.Numeral.isDecimal c := by
  have hle : ∀ a b : Char, a ≤ b ↔ a.toNat ≤ b.toNat := fun _ _ => Iff.rfl
  simp only [Text.Numeral.digitOf?, Text.Numeral.digit?, Text.Numeral.isDecimal, hle]
  have hdigits : ('0'.toNat = 48 ∧ '9'.toNat = 57) ∧ ('a'.toNat = 97 ∧ 'f'.toNat = 102) ∧
      'A'.toNat = 65 ∧ 'F'.toNat = 70 := by decide
  obtain ⟨⟨h0, h9⟩, ⟨ha, hf⟩, hA, hF⟩ := hdigits
  rw [h0, h9, ha, hf, hA, hF]
  split
  · rename_i hdigit
    have hsmall : c.toNat - 48 < 10 := by omega
    simp [hdigit, hsmall]
  · -- The letters stand for digits above nine.
    rename_i hother
    have hnone : (decide (48 ≤ c.toNat) && decide (c.toNat ≤ 57)) = false := by
      simpa using hother
    rw [hnone]
    split
    · have hlarge : ¬ c.toNat - 87 < 10 := by omega
      simp [hlarge]
    · split
      · have hlarge : ¬ c.toNat - 55 < 10 := by omega
        simp [hlarge]
      · rfl

theorem groupNumber?_eq_some_iff {digits : List Char} {number : Nat} :
    groupNumber? digits = some number ↔ NamesGroup digits number := by
  rw [groupNumber?, Option.filter_eq_some_iff, decide_eq_true_eq, Text.Numeral.ofDigits?]
  simp only [List.all_eq_true, isSome_digitOf?_ten]
  constructor
  · rintro ⟨hvalue, hlt⟩
    split at hvalue
    · rename_i hdigits
      exact ⟨hdigits.1, hdigits.2, Option.some.inj hvalue, hlt⟩
    · cases hvalue
  · rintro ⟨hne, hdecimal, rfl, hlt⟩
    exact ⟨if_pos ⟨hne, hdecimal⟩, hlt⟩

namespace Template

open BackReference (isDigit)

/-! ## The reading of a name -/

/-- A piece of a scope name. -/
inductive Piece
  | plain (c : Char)
  | reference (digits : List Char) (change : CaseChange)
  deriving DecidableEq, Repr

/-- The text of a piece. -/
def Piece.chars : Piece → List Char
  | plain c => [c]
  | reference digits .asIs => '$' :: digits
  | reference digits .lower => '$' :: '{' :: (digits ++ ":/downcase\x7d".toList)
  | reference digits .upper => '$' :: '{' :: (digits ++ ":/upcase\x7d".toList)

/-- There are digits, of any script and no other characters. -/
def AreDigits (digits : List Char) : Prop := digits ≠ [] ∧ ∀ c ∈ digits, isDigit c = true

/-- A text that does not start with a digit. -/
def NoDigitAhead (cs : List Char) : Prop := ∀ c, cs.head? = some c → isDigit c = false

/-- A reference stands at the head of a text, with `rest` behind it.  Without braces it takes all
digits. -/
structure Stands (digits : List Char) (change : CaseChange) (rest cs : List Char) : Prop where
  areDigits : AreDigits digits
  complete : change = .asIs → NoDigitAhead rest
  text_eq : (Piece.reference digits change).chars ++ rest = cs

/-- These pieces are what their text is read as: references that stand where they are, and
characters at which no reference stands. -/
def IsReading : List Piece → Prop
  | [] => True
  | .plain c :: rest =>
    (∀ digits change behind, ¬ Stands digits change behind (c :: rest.flatMap Piece.chars)) ∧
      IsReading rest
  | .reference digits change :: rest =>
    Stands digits change (rest.flatMap Piece.chars)
        ((Piece.reference digits change :: rest).flatMap Piece.chars) ∧
      IsReading rest

variable {digits cs rest : List Char} {change : CaseChange} {r : Reference} {ps : List Piece}

/-! ## Reading one reference -/

/-- All digits are taken from a text that goes on with no digit. -/
theorem span_digits (hdigits : ∀ c ∈ digits, isDigit c = true) (hrest : NoDigitAhead rest) :
    (digits ++ rest).takeWhile isDigit = digits ∧ (digits ++ rest).dropWhile isDigit = rest := by
  have hnone : rest.takeWhile isDigit = [] ∧ rest.dropWhile isDigit = rest := by
    cases rest with
    | nil => exact ⟨rfl, rfl⟩
    | cons c rest => simp [hrest c rfl]
  rw [List.takeWhile_append_of_pos hdigits, List.dropWhile_append_of_pos hdigits, hnone.1, hnone.2,
    List.append_nil]
  exact ⟨rfl, rfl⟩

theorem noDigitAhead_dropWhile (cs : List Char) : NoDigitAhead (cs.dropWhile isDigit) := by
  intro c hc
  have hhead := List.head?_dropWhile_not isDigit cs
  rw [hc] at hhead
  simpa using hhead

/-- What is read behind a dollar sign is a reference that stands there. -/
theorem stands_of_reference? (h : reference? cs = some r) :
    Stands r.digits r.change r.rest ('$' :: cs) ∧
      r.text = (Piece.reference r.digits r.change).chars := by
  unfold reference? at h
  split at h
  · rename_i inner
    dsimp only at h
    split at h
    · cases h
    · rename_i hdigits
      obtain ⟨ending, hfind, rfl⟩ := Option.map_eq_some_iff.1 h
      have hprefix := List.find?_some hfind
      obtain ⟨behind, hbehind⟩ := List.isPrefixOf_iff_prefix.1 hprefix
      have hinner : inner.takeWhile isDigit ++ (ending.1 ++ behind) = inner := by
        rw [hbehind, List.takeWhile_append_dropWhile]
      have hrest : (inner.dropWhile isDigit).drop ending.1.length = behind := by
        rw [← hbehind, List.drop_left]
      have hare : AreDigits (inner.takeWhile isDigit) :=
        ⟨hdigits, List.all_eq_true.1 List.all_takeWhile⟩
      dsimp only
      rw [hrest]
      have hending := List.mem_of_find?_eq_some hfind
      simp only [endings, List.mem_cons, List.not_mem_nil, or_false] at hending
      rcases hending with rfl | rfl
      · refine ⟨⟨hare, nofun, ?_⟩, rfl⟩
        rw [Piece.chars, List.cons_append, List.cons_append, List.append_assoc, hinner]
      · refine ⟨⟨hare, nofun, ?_⟩, rfl⟩
        rw [Piece.chars, List.cons_append, List.cons_append, List.append_assoc, hinner]
  · dsimp only at h
    split at h
    · cases h
    · rename_i hdigits
      obtain rfl := Option.some.inj h
      refine ⟨⟨⟨hdigits, List.all_eq_true.1 List.all_takeWhile⟩, ?_, ?_⟩, rfl⟩
      · intro _
        exact noDigitAhead_dropWhile cs
      · rw [Piece.chars, List.cons_append, List.takeWhile_append_dropWhile]

/-- One of the two endings is found in front of anything. -/
theorem find?_endings {ending : List Char × CaseChange} (hending : ending ∈ endings)
    (rest : List Char) :
    (endings.find? fun other => other.1.isPrefixOf (ending.1 ++ rest)) = some ending ∧
      NoDigitAhead (ending.1 ++ rest) := by
  have hdown : ":/downcase\x7d".toList =
      [':', '/', 'd', 'o', 'w', 'n', 'c', 'a', 's', 'e', '}'] := by rfl
  have hup : ":/upcase\x7d".toList = [':', '/', 'u', 'p', 'c', 'a', 's', 'e', '}'] := by rfl
  have hcolon : ∀ c, some ':' = some c → isDigit c = false := by
    intro c hc
    obtain rfl := Option.some.inj hc
    decide
  have hown : ending.1.isPrefixOf (ending.1 ++ rest) = true :=
    List.isPrefixOf_iff_prefix.2 (List.prefix_append _ _)
  simp only [endings, List.mem_cons, List.not_mem_nil, or_false] at hending
  rcases hending with rfl | rfl
  · refine ⟨List.find?_cons_of_pos hown, ?_⟩
    rw [hdown]
    exact hcolon
  · refine ⟨(List.find?_cons_of_neg ?_).trans (List.find?_cons_of_pos hown), ?_⟩
    · rw [hdown, hup]
      exact Bool.false_ne_true
    · rw [hup]
      exact hcolon

/-- A reference that stands somewhere is read there. -/
theorem Stands.reference?_eq (h : Stands digits change rest ('$' :: cs)) :
    reference? cs = some ⟨digits, change, (Piece.reference digits change).chars, rest⟩ := by
  obtain ⟨⟨hne, hdigits⟩, hcomplete, htext⟩ := h
  have hbraced : ∀ ending ∈ endings,
      reference? ('{' :: (digits ++ (ending.1 ++ rest))) =
        some ⟨digits, ending.2, '$' :: '{' :: (digits ++ ending.1), rest⟩ := by
    intro ending hending
    obtain ⟨hfind, hahead⟩ := find?_endings hending rest
    obtain ⟨htake, hdrop⟩ := span_digits hdigits hahead
    rw [reference?, htake, hdrop, if_neg hne, hfind, Option.map_some, List.drop_left]
  cases change with
  | asIs =>
      obtain rfl : digits ++ rest = cs := (List.cons.inj htext).2
      obtain ⟨htake, hdrop⟩ := span_digits hdigits (hcomplete rfl)
      obtain ⟨first, more, rfl⟩ := List.exists_cons_of_ne_nil hne
      have hbrace : first ≠ '{' := by
        rintro rfl
        exact absurd (hdigits _ List.mem_cons_self) (by decide)
      rw [reference?, htake, hdrop, if_neg hne]
      · rfl
      · intro inner hinner
        exact hbrace (List.cons.inj hinner).1
  | lower =>
      have hcs : cs = '{' :: (digits ++ (":/downcase\x7d".toList ++ rest)) := by
        rw [← List.append_assoc]
        exact (List.cons.inj htext).2.symm
      rw [hcs]
      exact hbraced (":/downcase\x7d".toList, .lower) List.mem_cons_self
  | upper =>
      have hcs : cs = '{' :: (digits ++ (":/upcase\x7d".toList ++ rest)) := by
        rw [← List.append_assoc]
        exact (List.cons.inj htext).2.symm
      rw [hcs]
      exact hbraced (":/upcase\x7d".toList, .upper) (List.mem_cons_of_mem _ List.mem_cons_self)

/-- No reference is read where none stands. -/
theorem reference?_eq_none
    (h : ∀ digits change behind, ¬ Stands digits change behind ('$' :: cs)) :
    reference? cs = none := by
  cases href : reference? cs with
  | none => rfl
  | some r => exact absurd (stands_of_reference? href).1 (h _ _ _)

/-! ## The reading of a whole name -/

/-- A reference starts with a dollar sign. -/
theorem Piece.exists_chars_eq (digits : List Char) (change : CaseChange) :
    ∃ behind, (reference digits change).chars = '$' :: behind := by
  cases change
  · exact ⟨_, rfl⟩
  · exact ⟨_, rfl⟩
  · exact ⟨_, rfl⟩

/-- Every text is read as some pieces.  The induction is on the length of the text. -/
theorem exists_reading (cs : List Char) :
    ∃ ps, IsReading ps ∧ ps.flatMap Piece.chars = cs := by
  induction hlength : cs.length using Nat.strongRecOn generalizing cs with
  | ind length ih =>
    cases cs with
    | nil => exact ⟨[], trivial, rfl⟩
    | cons c rest =>
        rw [List.length_cons] at hlength
        by_cases hstands : ∃ digits change behind, Stands digits change behind (c :: rest)
        · obtain ⟨digits, change, behind, hstands⟩ := hstands
          have hshort : behind.length < length := by
            obtain ⟨more, hmore⟩ := Piece.exists_chars_eq digits change
            have htext := congrArg List.length hstands.text_eq
            rw [hmore] at htext
            simp only [List.cons_append, List.length_cons, List.length_append] at htext
            omega
          obtain ⟨ps, hps, rfl⟩ := ih _ hshort behind rfl
          refine ⟨.reference digits change :: ps, ⟨?_, hps⟩, hstands.text_eq⟩
          exact ⟨hstands.areDigits, hstands.complete, rfl⟩
        · obtain ⟨ps, hps, rfl⟩ := ih rest.length (by omega) rest rfl
          refine ⟨.plain c :: ps, ⟨?_, hps⟩, rfl⟩
          intro digits change behind h
          exact hstands ⟨digits, change, behind, h⟩

/-- A reference is found in a name if there is one among its pieces. -/
theorem occur_iff (h : IsReading ps) : occur (ps.flatMap Piece.chars) = true ↔
    ∃ digits change, .reference digits change ∈ ps := by
  induction ps with
  | nil => simp [occur]
  | cons p ps ih =>
      cases p with
      | plain c =>
          obtain ⟨hnone, hps⟩ := h
          have hskip : occur (c :: ps.flatMap Piece.chars) = occur (ps.flatMap Piece.chars) := by
            by_cases hdollar : c = '$'
            · subst hdollar
              rw [occur, reference?_eq_none hnone]
              rfl
            · rw [occur]
              exact hdollar
          rw [List.flatMap_cons, Piece.chars, List.singleton_append, hskip, ih hps]
          simp
      | reference digits change =>
          obtain ⟨hstands, -⟩ := h
          obtain ⟨behind, hbehind⟩ := Piece.exists_chars_eq digits change
          rw [List.flatMap_cons, hbehind, List.cons_append] at hstands ⊢
          rw [occur, hstands.reference?_eq]
          exact ⟨fun _ => ⟨digits, change, List.mem_cons_self⟩, fun _ => rfl⟩

/-! ## The pass -/

/-- What stands for a piece when a match has been found. -/
inductive Replaces (text : Array Char) (found : Found) : Piece → List Char → Prop
  | plain (c : Char) : Replaces text found (.plain c) [c]
  /-- The text of a group that has one, without the dots at its start. -/
  | group {digits : List Char} {change : CaseChange} {number : Nat} {span : Span}
      (hnumber : NamesGroup digits number) (hspan : found.span? number = some span) :
      Replaces text found (.reference digits change)
        (change.apply ((span.of text).dropWhile (· = '.')))
  /-- A reference that names no group, or a group without text. -/
  | kept {digits : List Char} {change : CaseChange}
      (hnone : ∀ number, NamesGroup digits number → found.span? number = none) :
      Replaces text found (.reference digits change) (Piece.reference digits change).chars

/-- What stands for the pieces, one after the other. -/
inductive Fills (text : Array Char) (found : Found) : List Piece → List Char → Prop
  | done : Fills text found [] []
  | next {p : Piece} {ps : List Piece} {image out : List Char} (head : Replaces text found p image)
      (tail : Fills text found ps out) : Fills text found (p :: ps) (image ++ out)

/-- What the pass puts in the place of a piece. -/
def Piece.image (text : Array Char) (found : Found) : Piece → List Char
  | plain c => [c]
  | reference digits change =>
    Template.image text found ⟨digits, change, (reference digits change).chars, []⟩

variable {text : Array Char} {found : Found} {p : Piece} {out : List Char}

theorem replaces_iff : Replaces text found p out ↔ p.image text found = out := by
  cases p with
  | plain c =>
      constructor
      · rintro ⟨⟩
        rfl
      · rintro rfl
        exact .plain c
  | reference digits change =>
      rw [Piece.image, image]
      constructor
      · intro h
        cases h with
        | group hnumber hspan =>
            rw [groupNumber?_eq_some_iff.2 hnumber, Option.bind_some, hspan]
        | kept hnone =>
            cases hnumber : groupNumber? digits with
            | none => rfl
            | some number =>
                rw [Option.bind_some, hnone number (groupNumber?_eq_some_iff.1 hnumber)]
      · rintro rfl
        cases hspan : (groupNumber? digits).bind found.span? with
        | some span =>
            obtain ⟨number, hnumber, hspan⟩ := Option.bind_eq_some_iff.1 hspan
            exact .group (groupNumber?_eq_some_iff.1 hnumber) hspan
        | none =>
            refine .kept ?_
            intro number hnumber
            rwa [groupNumber?_eq_some_iff.2 hnumber, Option.bind_some] at hspan

theorem fills_iff : Fills text found ps out ↔ ps.flatMap (Piece.image text found) = out := by
  induction ps generalizing out with
  | nil =>
      constructor
      · rintro ⟨⟩
        rfl
      · rintro rfl
        exact .done
  | cons p ps ih =>
      constructor
      · rintro (_ | ⟨head, tail⟩)
        rw [List.flatMap_cons, replaces_iff.1 head, ih.1 tail]
      · rintro rfl
        exact .next (replaces_iff.2 rfl) (ih.2 rfl)

/-- The pass puts together what stands for the pieces. -/
theorem fillFrom_eq {fuel : Nat} (h : IsReading ps)
    (hfuel : (ps.flatMap Piece.chars).length < fuel) :
    fillFrom text found fuel (ps.flatMap Piece.chars) = ps.flatMap (Piece.image text found) := by
  induction ps generalizing fuel with
  | nil => cases fuel <;> rfl
  | cons p ps ih =>
      obtain ⟨fuel, rfl⟩ := Nat.exists_eq_add_one_of_ne_zero (Nat.ne_zero_of_lt hfuel)
      cases p with
      | plain c =>
          obtain ⟨hnone, hps⟩ := h
          rw [List.flatMap_cons, Piece.chars, List.singleton_append, List.length_cons] at hfuel
          rw [List.flatMap_cons, List.flatMap_cons, ← ih hps (Nat.lt_of_succ_lt_succ hfuel)]
          by_cases hdollar : c = '$'
          · subst hdollar
            rw [Piece.chars, List.singleton_append, fillFrom, reference?_eq_none hnone]
            rfl
          · rw [Piece.chars, List.singleton_append, fillFrom]
            · rfl
            · exact hdollar
      | reference digits change =>
          obtain ⟨hstands, hps⟩ := h
          obtain ⟨behind, hbehind⟩ := Piece.exists_chars_eq digits change
          rw [List.flatMap_cons, List.length_append, hbehind, List.length_cons] at hfuel
          have hrest : (ps.flatMap Piece.chars).length < fuel := by omega
          rw [List.flatMap_cons, hbehind, List.cons_append] at hstands
          rw [List.flatMap_cons, List.flatMap_cons, ← ih hps hrest, hbehind, List.cons_append,
            fillFrom, hstands.reference?_eq]
          rfl

/-- A pass over a name without references changes nothing. -/
theorem flatMap_image_of_not_occur (h : IsReading ps)
    (hnone : occur (ps.flatMap Piece.chars) = false) :
    ps.flatMap (Piece.image text found) = ps.flatMap Piece.chars := by
  have hplain : ∀ p ∈ ps, p.image text found = p.chars := by
    intro p hp
    cases p with
    | plain c => rfl
    | reference digits change =>
        have hoccur := (occur_iff h).2 ⟨digits, change, hp⟩
        rw [hnone] at hoccur
        cases hoccur
  rw [List.flatMap_def, List.map_congr_left hplain, ← List.flatMap_def]

/-- A digit of another script belongs to the digits, and these name no group then. -/
example : fill ⟨String.ofList ['$', '1', Char.ofNat 0x1CCF1]⟩ #['a'] ⟨⟨0, 1⟩, [some ⟨0, 1⟩]⟩ =
    ['$', '1', Char.ofNat 0x1CCF1] := by
  decide +kernel

/-- What has been put in may look like a reference. -/
example : fill ⟨"a$1"⟩ #['$', '1'] ⟨⟨0, 2⟩, [some ⟨0, 2⟩]⟩ = ['a', '$', '1'] := by decide

end Template

end ScopeCheck
