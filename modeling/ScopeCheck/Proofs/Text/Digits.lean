import ScopeCheck.Text.Numeral

/-!
# Digits of numbers

`Numeral.digits` writes a number and `Numeral.value` reads it.

* `Numeral.value_digits`: what has been written is read back, in every base up to sixteen;
* `Numeral.isDecimal_of_mem_digits` and `Numeral.digits_ne_nil`: a number in base ten is written as
  one digit at least, and as nothing but digits.
-/

namespace ScopeCheck.Text.Numeral

variable {base fuel n : Nat} {tail : List Char} {c : Char}

theorem digit?_digitChar : ∀ d < 16, digit? (digitChar d) = some d := by decide

theorem isDecimal_digitChar : ∀ d < 10, isDecimal (digitChar d) = true := by decide

/-- What stands in front of `tail` is read as the number.  The induction is on the digits that are
still to be written. -/
theorem foldl_digitsOnto (hbase : 2 ≤ base) (hdigits : base ≤ 16) (hfuel : n < fuel) :
    (digitsOnto base fuel n tail).foldl (fun n c => n * base + (digit? c).getD 0) 0 =
      tail.foldl (fun n c => n * base + (digit? c).getD 0) n := by
  induction fuel generalizing n tail with
  | zero => omega
  | succ fuel ih =>
      have hdigit : digit? (digitChar (n % base)) = some (n % base) :=
        digit?_digitChar _ (Nat.lt_of_lt_of_le (Nat.mod_lt n (by omega)) hdigits)
      have hsplit : n / base * base + n % base = n := Nat.div_add_mod' n base
      simp only [digitsOnto]
      split
      · rename_i hzero
        rw [hzero, Nat.zero_mul, Nat.zero_add] at hsplit
        rw [List.foldl_cons, hdigit, Option.getD_some, hsplit, Nat.zero_mul, Nat.zero_add]
      · rename_i hmore
        have hpos : 0 < n := Nat.pos_of_ne_zero fun hzero => hmore (by rw [hzero, Nat.zero_div])
        have hless : n / base < n := Nat.div_lt_self hpos (by omega)
        rw [ih (by omega), List.foldl_cons, hdigit, Option.getD_some, hsplit]

/-- A number that has been written is read back. -/
theorem value_digits (hbase : 2 ≤ base) (hdigits : base ≤ 16) (n : Nat) :
    value base (digits base n) = n :=
  foldl_digitsOnto hbase hdigits (Nat.lt_succ_self n)

theorem mem_digitsOnto (h : c ∈ digitsOnto base fuel n tail) :
    c ∈ tail ∨ ∃ m, c = digitChar (m % base) := by
  induction fuel generalizing n tail with
  | zero => exact Or.inl h
  | succ fuel ih =>
      simp only [digitsOnto] at h
      have hrest : c ∈ digitChar (n % base) :: tail → c ∈ tail ∨ ∃ m, c = digitChar (m % base) := by
        intro hc
        rcases List.mem_cons.1 hc with rfl | hc
        · exact Or.inr ⟨n, rfl⟩
        · exact Or.inl hc
      split at h
      · exact hrest h
      · rcases ih h with hc | hdigit
        · exact hrest hc
        · exact Or.inr hdigit

/-- A number in base ten consists of digits. -/
theorem isDecimal_of_mem_digits (h : c ∈ digits 10 n) : isDecimal c = true := by
  rcases mem_digitsOnto h with hnil | ⟨m, rfl⟩
  · cases hnil
  · exact isDecimal_digitChar _ (Nat.mod_lt m (by omega))

theorem suffix_digitsOnto : tail <:+ digitsOnto base fuel n tail := by
  induction fuel generalizing n tail with
  | zero => exact List.suffix_refl tail
  | succ fuel ih =>
      simp only [digitsOnto]
      split
      · exact List.suffix_cons _ _
      · exact (List.suffix_cons _ _).trans ih

/-- There is at least one digit. -/
theorem digits_ne_nil : digits base n ≠ [] := by
  simp only [digits, digitsOnto]
  split
  · exact List.cons_ne_nil _ _
  · intro hnil
    have hsuffix : [digitChar (n % base)] <:+ digitsOnto base n (n / base) [digitChar (n % base)] :=
      suffix_digitsOnto
    rw [hnil] at hsuffix
    exact List.cons_ne_nil _ _ (List.suffix_nil.1 hsuffix)

end ScopeCheck.Text.Numeral
