import Mathlib.Tactic.SplitIfs
import ScopeCheck.Json.Reader
import ScopeCheck.Json.Value

/-!
# Strings of the data format

A string is written between quotes, with escapes for the characters that cannot stand there.

* `JsonReader.readString_quoted`: the reader gets back every string that is written, and stops right
  behind it;
* `Json.quotedChars_append_inj`: so it is clear where a written string ends;
* `Json.compact_strings_inj`: a list of strings can be told from any other list of strings by its
  text;
* `Json.feed_not_mem_strings`: there is no line feed in this text.
-/

namespace ScopeCheck

open ScopeCheck.Text

namespace Json

/-- A character as it is written inside a string. -/
def escapedChar (c : Char) : List Char :=
  match escape? c with
  | some e => e.toList
  | none => [c]

theorem quotedChars_eq (s : String) :
    quotedChars s = '"' :: (s.toList.flatMap escapedChar ++ ['"']) := rfl

end Json

namespace JsonReader

open Json

variable {c d : Char} {fuel index : Nat} {done tail : List Char}

theorem readEscape_simple (h : simpleEscape? d = some c) :
    readEscape ⟨index, d :: tail⟩ = .ok (c, ⟨index + 1, tail⟩) := by
  have hne : d ≠ 'u' := by
    rintro rfl
    cases h
  simp [readEscape, h]

/-- An escape of one letter is read as the character that it stands for. -/
theorem readString_simple (h : simpleEscape? d = some c) :
    readString (fuel + 1) done ⟨index, '\\' :: d :: tail⟩ =
      readString fuel (c :: done) ⟨index + 2, tail⟩ := by
  rw [readString]
  simp [readEscape_simple h, bind, Except.bind]

/-- The digits of a control character are hexadecimal ones, and they are read as its number. -/
theorem readHex_control (h : c.toNat < 32) :
    readHex ⟨index, '0' :: '0' :: Numeral.digitChar (c.toNat / 16) ::
        Numeral.digitChar (c.toNat % 16) :: tail⟩ = .ok (c.toNat, ⟨index + 4, tail⟩) := by
  have hdigits : ∀ code < 32,
      ['0', '0', Numeral.digitChar (code / 16), Numeral.digitChar (code % 16)].all
          Numeral.isHex = true ∧
        Numeral.value 16 ['0', '0', Numeral.digitChar (code / 16),
          Numeral.digitChar (code % 16)] = code := by
    decide
  obtain ⟨hhex, hvalue⟩ := hdigits c.toNat h
  simp only [readHex, hhex, hvalue, if_true]

/-- An escape of four digits is read as the control character that it stands for. -/
theorem readString_control (h : c.toNat < 32) :
    readString (fuel + 1) done ⟨index, '\\' :: 'u' :: '0' :: '0' ::
        Numeral.digitChar (c.toNat / 16) :: Numeral.digitChar (c.toNat % 16) :: tail⟩ =
      readString fuel (c :: done) ⟨index + 6, tail⟩ := by
  have hlow : ¬ (0xDC00 ≤ c.toNat ∧ c.toNat ≤ 0xDFFF) := by omega
  have hhigh : ¬ (0xD800 ≤ c.toNat ∧ c.toNat ≤ 0xDBFF) := by omega
  simp [readString, readEscape, readHex_control h, bind, Except.bind, hlow, hhigh]

/-- A character that needs no escape is read as it is. -/
theorem readString_plain (hquote : c ≠ '"') (hescape : c ≠ '\\') (hcontrol : ¬ c.toNat < 32) :
    readString (fuel + 1) done ⟨index, c :: tail⟩ =
      readString fuel (c :: done) ⟨index + c.utf8Size, tail⟩ := by
  simp [readString, hcontrol]

/-- A character that is written is read back. -/
theorem readString_escapedChar (c : Char) (fuel index : Nat) (done tail : List Char) :
    ∃ behind, readString (fuel + 1) done ⟨index, escapedChar c ++ tail⟩ =
      readString fuel (c :: done) ⟨behind, tail⟩ := by
  have hcode : ∀ {n}, c.toNat = n → Char.ofNat n = c := by
    rintro _ rfl
    exact Char.ofNat_toNat c
  unfold escapedChar escape?
  -- Seven escapes of one letter, the escape of four digits, and no escape.
  split_ifs with hquote hescape hfeed hreturn htab hback hform hcontrol
  · exact ⟨_, readString_simple (by rw [hquote]; rfl)⟩
  · exact ⟨_, readString_simple (by rw [hescape]; rfl)⟩
  · exact ⟨_, readString_simple (by rw [hfeed]; rfl)⟩
  · exact ⟨_, readString_simple (by rw [hreturn]; rfl)⟩
  · exact ⟨_, readString_simple (by rw [htab]; rfl)⟩
  · exact ⟨_, readString_simple (by rw [← hcode hback]; rfl)⟩
  · exact ⟨_, readString_simple (by rw [← hcode hform]; rfl)⟩
  · refine ⟨index + 6, ?_⟩
    rw [← readString_control hcontrol]
    simp
  · exact ⟨_, readString_plain hquote hescape hcontrol⟩

/-- The reader gets back a string that is written, and stops right behind it. -/
theorem readString_quoted (s : List Char) (index : Nat) (done tail : List Char)
    (hfuel : s.length < fuel) :
    ∃ behind, readString fuel done ⟨index, s.flatMap escapedChar ++ '"' :: tail⟩ =
      .ok (String.ofList (done.reverse ++ s), ⟨behind, tail⟩) := by
  induction s generalizing index done fuel with
  | nil =>
      obtain ⟨fuel, rfl⟩ := Nat.exists_eq_add_of_lt hfuel
      exact ⟨index + 1, by simp [readString]⟩
  | cons c s ih =>
      rw [List.length_cons] at hfuel
      obtain ⟨rest, rfl⟩ : ∃ rest, fuel = rest + 1 := ⟨fuel - 1, by omega⟩
      rw [List.flatMap_cons, List.append_assoc]
      obtain ⟨next, hnext⟩ := readString_escapedChar c rest index done
        (s.flatMap escapedChar ++ '"' :: tail)
      obtain ⟨behind, hbehind⟩ := ih next (c :: done) (Nat.lt_of_succ_lt_succ hfuel)
      refine ⟨behind, ?_⟩
      rw [hnext, hbehind, List.reverse_cons, List.append_assoc, List.singleton_append]

end JsonReader

namespace Json

open JsonReader

/-- It is clear where a string ends. -/
theorem quotedChars_append_inj {s s' : String} {tail tail' : List Char}
    (h : quotedChars s ++ tail = quotedChars s' ++ tail') : s = s' ∧ tail = tail' := by
  have hread : ∀ (s : String) (tail : List Char) (fuel : Nat), s.toList.length < fuel →
      ∃ behind, readString fuel [] ⟨0, (quotedChars s ++ tail).tail⟩ = .ok (s, ⟨behind, tail⟩) := by
    intro s tail fuel hfuel
    obtain ⟨behind, hbehind⟩ := readString_quoted s.toList 0 [] tail hfuel
    refine ⟨behind, ?_⟩
    simpa [quotedChars_eq] using hbehind
  -- With fuel for either of them, both are read from the same text.
  let fuel := s.toList.length + s'.toList.length + 1
  obtain ⟨behind, hs⟩ := hread s tail fuel (by omega)
  obtain ⟨behind', hs'⟩ := hread s' tail' fuel (by omega)
  rw [h, hs'] at hs
  obtain ⟨rfl, hinput⟩ := Prod.mk.inj (Except.ok.inj hs)
  exact ⟨rfl, (JsonReader.Input.mk.inj hinput).2.symm⟩

theorem itemsOnto_strings_inj {items items' : List String}
    (h : itemsOnto [']'] (items.map .string) = itemsOnto [']'] (items'.map .string)) :
    items = items' := by
  induction items generalizing items' with
  | nil =>
      cases items' with
      | nil => rfl
      | cons s' items' => simp [itemsOnto] at h
  | cons s items ih =>
      cases items' with
      | nil => simp [itemsOnto] at h
      | cons s' items' =>
          simp only [List.map_cons, itemsOnto, onto, List.cons.injEq, true_and] at h
          obtain ⟨rfl, hrest⟩ := quotedChars_append_inj h
          rw [ih hrest]

/-- A list of strings is determined by its text. -/
theorem compact_strings_inj {items items' : List String}
    (h : (array (items.map .string)).compact = (array (items'.map .string)).compact) :
    items = items' := by
  have hchars := String.ofList_injective h
  cases items with
  | nil =>
      cases items' with
      | nil => rfl
      | cons s' items' => simp [onto, quotedChars_eq] at hchars
  | cons s items =>
      cases items' with
      | nil => simp [onto, quotedChars_eq] at hchars
      | cons s' items' =>
          simp only [List.map_cons, onto, List.cons.injEq, true_and] at hchars
          obtain ⟨rfl, hrest⟩ := quotedChars_append_inj hchars
          rw [itemsOnto_strings_inj hrest]

/-! ## Line feeds -/

/-- A line feed is written as an escape. -/
theorem feed_not_mem_escapedChar (c : Char) : '\n' ∉ escapedChar c := by
  have hdigit : ∀ n < 16, '\n' ≠ Numeral.digitChar n := by decide
  unfold escapedChar escape?
  split_ifs with hquote hescape hfeed hreturn htab hback hform hcontrol
  -- The escapes of one letter come last.
  rotate_left 7
  · have hhigh := hdigit (c.toNat / 16) (by omega)
    have hlow := hdigit (c.toNat % 16) (by omega)
    simp [hhigh, hlow]
  · simpa using Ne.symm hfeed
  all_goals simp

theorem feed_not_mem_quotedChars (s : String) : '\n' ∉ quotedChars s := by
  rw [quotedChars_eq]
  simp only [List.mem_cons, List.mem_append, List.mem_flatMap, List.not_mem_nil, or_false, not_or,
    not_exists, not_and]
  exact ⟨by decide, fun c _ => feed_not_mem_escapedChar c, by decide⟩

theorem feed_not_mem_itemsOnto (items : List String) :
    '\n' ∉ itemsOnto [']'] (items.map .string) := by
  induction items with
  | nil => decide
  | cons s items ih => simp [itemsOnto, onto, feed_not_mem_quotedChars, ih]

/-- The text of a list of strings has no line feed. -/
theorem feed_not_mem_strings (items : List String) :
    '\n' ∉ (array (items.map .string)).compact.toList := by
  cases items with
  | nil => decide
  | cons s items =>
      simp [compact, onto, feed_not_mem_quotedChars, feed_not_mem_itemsOnto]

end Json

end ScopeCheck
