import ScopeCheck.Fixture

/-!
# Lines of a text

`linesOf` reads a text character by character.  These are the facts about it that other theorems
use instead of its recursion.

* `linesOf_nil`, `linesOf_feed`, `linesOf_returnFeed` and `linesOf_cons` say what one reading step
  does, and `linesOf_induction` is the induction over the steps;
* `length_linesOf`: there is one more line than there are line feeds, and by
  `feed_not_mem_of_mem_linesOf` no line has one;
* `linesOf_append_feed`: a line feed separates the lines before it from those behind it, unless a
  carriage return stands right before it;
* `linesOf_withReturns`: a carriage return before every line feed does not change the lines.
-/

namespace ScopeCheck

variable {c : Char} {rest front text : List Char}

/-! ## One reading step -/

theorem linesOf_nil : linesOf [] = [[]] := by
  rw [linesOf]

/-- A line feed ends a line. -/
theorem linesOf_feed : linesOf ('\n' :: rest) = [] :: linesOf rest := by
  rw [linesOf]

/-- A carriage return and a line feed end a line together. -/
theorem linesOf_returnFeed : linesOf ('\r' :: '\n' :: rest) = [] :: linesOf rest := by
  rw [linesOf]

theorem linesOf_ne_nil (text : List Char) : linesOf text ≠ [] := by
  fun_cases linesOf text <;> simp

/-- This character does not end a line, neither alone nor together with what follows. -/
def StaysOnLine (c : Char) (rest : List Char) : Prop :=
  c ≠ '\n' ∧ (c = '\r' → rest.head? ≠ some '\n')

/-- A character that does not end a line belongs to the first one. -/
theorem linesOf_cons (hstays : StaysOnLine c rest) :
    linesOf (c :: rest) = (linesOf rest).modifyHead (c :: ·) := by
  have hpair : ∀ tail, c = '\r' → rest = '\n' :: tail → False := by
    rintro tail hc rfl
    exact hstays.2 hc rfl
  rw [linesOf.eq_3 c rest hpair hstays.1]
  cases hlines : linesOf rest with
  | nil => exact absurd hlines (linesOf_ne_nil rest)
  | cons line lines => rfl

/-- The induction over a text as it is read into lines. -/
@[elab_as_elim]
theorem linesOf_induction {motive : List Char → Prop} (nil : motive [])
    (feed : ∀ rest, motive rest → motive ('\n' :: rest))
    (returnFeed : ∀ rest, motive rest → motive ('\r' :: '\n' :: rest))
    (cons : ∀ c rest, StaysOnLine c rest → motive rest → motive (c :: rest))
    (text : List Char) : motive text := by
  have hcons : ∀ c rest, (∀ tail, c = '\r' → rest = '\n' :: tail → False) → (c = '\n' → False) →
      motive rest → motive (c :: rest) := by
    intro c rest hpair hfeed hrest
    refine cons c rest ⟨hfeed, ?_⟩ hrest
    intro hc hhead
    obtain ⟨tail, rfl⟩ := List.head?_eq_some_iff.1 hhead
    exact hpair tail hc rfl
  induction text using linesOf.induct with
  | case1 rest ih => exact returnFeed rest ih
  | case2 rest ih => exact feed rest ih
  | case3 c rest hpair hfeed line lines hlines ih => exact hcons c rest hpair hfeed ih
  | case4 c rest hpair hfeed hlines ih => exact hcons c rest hpair hfeed ih
  | case5 => exact nil

/-! ## Line feeds -/

/-- There is one more line than there are line feeds. -/
theorem length_linesOf (text : List Char) : (linesOf text).length = text.count '\n' + 1 := by
  induction text using linesOf_induction with
  | nil => rfl
  | feed rest ih => simp [linesOf_feed, ih]
  | returnFeed rest ih => simp [linesOf_returnFeed, ih]
  | cons c rest hstays ih => simp [linesOf_cons hstays, ih, hstays.1]

/-- No line has a line feed. -/
theorem feed_not_mem_of_mem_linesOf {line : List Char} (h : line ∈ linesOf text) :
    '\n' ∉ line := by
  induction text using linesOf_induction generalizing line with
  | nil =>
      rw [linesOf_nil, List.mem_singleton] at h
      rw [h]
      exact List.not_mem_nil
  | feed rest ih =>
      rw [linesOf_feed, List.mem_cons] at h
      rcases h with rfl | h
      · exact List.not_mem_nil
      · exact ih h
  | returnFeed rest ih =>
      rw [linesOf_returnFeed, List.mem_cons] at h
      rcases h with rfl | h
      · exact List.not_mem_nil
      · exact ih h
  | cons c rest hstays ih =>
      rw [linesOf_cons hstays] at h
      cases hlines : linesOf rest with
      | nil => exact absurd hlines (linesOf_ne_nil rest)
      | cons first lines =>
          rw [hlines] at h ih
          rcases List.mem_cons.1 h with rfl | h
          · rw [List.mem_cons, not_or]
            exact ⟨Ne.symm hstays.1, ih List.mem_cons_self⟩
          · exact ih (List.mem_cons_of_mem _ h)

/-- A character at the end of what follows another one is at the end of both. -/
theorem getLast?_of_cons {last : Char} (h : (c :: rest).getLast? ≠ some last) :
    rest.getLast? ≠ some last := by
  intro hlast
  apply h
  rw [List.getLast?_cons, hlast, Option.getD_some]

/-- A line feed separates the lines before it from those behind it, unless it belongs to a carriage
return.  The induction is on the text before it. -/
theorem linesOf_append_feed (hlast : front.getLast? ≠ some '\r') :
    linesOf (front ++ '\n' :: text) = linesOf front ++ linesOf text := by
  induction front using linesOf_induction with
  | nil => rw [List.nil_append, linesOf_feed, linesOf_nil, List.singleton_append]
  | feed rest ih =>
      rw [List.cons_append, linesOf_feed, linesOf_feed, ih (getLast?_of_cons hlast),
        List.cons_append]
  | returnFeed rest ih =>
      rw [List.cons_append, List.cons_append, linesOf_returnFeed, linesOf_returnFeed,
        ih (getLast?_of_cons (getLast?_of_cons hlast)), List.cons_append]
  | cons c rest hstays ih =>
      have hstays' : StaysOnLine c (rest ++ '\n' :: text) := by
        refine ⟨hstays.1, ?_⟩
        rintro rfl
        -- If nothing followed the carriage return, it would be the last character.
        have hrest : rest ≠ [] := by
          rintro rfl
          exact hlast rfl
        obtain ⟨first, more, rfl⟩ := List.exists_cons_of_ne_nil hrest
        exact hstays.2 rfl
      rw [List.cons_append, linesOf_cons hstays', linesOf_cons hstays, ih (getLast?_of_cons hlast)]
      cases hlines : linesOf rest with
      | nil => exact absurd hlines (linesOf_ne_nil rest)
      | cons line lines => rfl

example : linesOf ['a', '\r', '\n', 'b'] ≠ linesOf ['a', '\r'] ++ linesOf ['b'] := by decide

/-! ## Carriage returns -/

/-- A text with a carriage return put before every line feed. -/
def withReturns (text : List Char) : List Char :=
  text.flatMap fun c => if c = '\n' then ['\r', '\n'] else [c]

theorem withReturns_feed : withReturns ('\n' :: rest) = '\r' :: '\n' :: withReturns rest := by
  simp [withReturns]

theorem withReturns_cons (hfeed : c ≠ '\n') : withReturns (c :: rest) = c :: withReturns rest := by
  simp [withReturns, hfeed]

/-- Such a text does not start with a line feed. -/
theorem head?_withReturns : (withReturns text).head? ≠ some '\n' := by
  cases text with
  | nil => simp [withReturns]
  | cons c rest =>
      by_cases hfeed : c = '\n'
      · subst hfeed
        rw [withReturns_feed]
        simp
      · rw [withReturns_cons hfeed]
        simpa using hfeed

/-- In this text no carriage return stands right before a line feed. -/
def HasPlainFeeds (text : List Char) : Prop := ¬ ['\r', '\n'] <:+: text

theorem HasPlainFeeds.of_cons (h : HasPlainFeeds (c :: rest)) : HasPlainFeeds rest :=
  fun hinfix => h (List.infix_cons hinfix)

/-- A carriage return before every line feed does not change the lines of a text. -/
theorem linesOf_withReturns (h : HasPlainFeeds text) :
    linesOf (withReturns text) = linesOf text := by
  induction text using linesOf_induction with
  | nil => rfl
  | feed rest ih => rw [withReturns_feed, linesOf_returnFeed, linesOf_feed, ih h.of_cons]
  | returnFeed rest ih => exact absurd ⟨[], rest, rfl⟩ h
  | cons c rest hstays ih =>
      have hstays' : StaysOnLine c (withReturns rest) := ⟨hstays.1, fun _ => head?_withReturns⟩
      rw [withReturns_cons hstays.1, linesOf_cons hstays', linesOf_cons hstays, ih h.of_cons]

end ScopeCheck
