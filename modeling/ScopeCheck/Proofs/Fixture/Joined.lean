import ScopeCheck.Proofs.Fixture.Lines

/-!
# Joining lines

Reading a text into lines loses the ends of the lines and nothing else.

* `intercalate_linesOf`: when the lines are joined with line feeds, the text comes back, without the
  carriage returns that stood before its line feeds;
* `linesOf_intercalate`: lines that have been joined are read back, if the end that was put between
  them ends each of them.  A carriage return and a line feed together do so always, by
  `endsLine_returnFeed`, and a line feed alone does behind a line that has no carriage return at its
  end, by `endsLine_feed`.

`lines_joined` is the result for both directions.
-/

namespace ScopeCheck

variable {c : Char} {front rest text ending : List Char} {lines : List (List Char)}

/-! ## The text of the lines -/

/-- A text in which a line feed alone stands for each carriage return with a line feed. -/
def withoutReturns : List Char → List Char
  | '\r' :: '\n' :: rest => '\n' :: withoutReturns rest
  | c :: rest => c :: withoutReturns rest
  | [] => []

theorem withoutReturns_feed : withoutReturns ('\n' :: rest) = '\n' :: withoutReturns rest := by
  rw [withoutReturns]
  rintro _ hreturn _
  cases hreturn

theorem withoutReturns_cons (hstays : StaysOnLine c rest) :
    withoutReturns (c :: rest) = c :: withoutReturns rest := by
  rw [withoutReturns]
  rintro tail rfl rfl
  exact hstays.2 rfl rfl

/-- An empty line in front puts a line feed before the others. -/
theorem intercalate_nil_cons (hlines : lines ≠ []) :
    ['\n'].intercalate ([] :: lines) = '\n' :: ['\n'].intercalate lines := by
  obtain ⟨line, more, rfl⟩ := List.exists_cons_of_ne_nil hlines
  rw [List.intercalate_cons_cons, List.nil_append, List.singleton_append]

/-- A character in front of the first line stands in front of them all. -/
theorem intercalate_modifyHead (hlines : lines ≠ []) :
    ['\n'].intercalate (lines.modifyHead (c :: ·)) = c :: ['\n'].intercalate lines := by
  obtain ⟨line, more, rfl⟩ := List.exists_cons_of_ne_nil hlines
  cases more with
  | nil => simp
  | cons next more => simp [List.intercalate_cons_cons]

/-- The lines of a text, joined, are the text without the carriage returns before line feeds. -/
theorem intercalate_linesOf (text : List Char) :
    ['\n'].intercalate (linesOf text) = withoutReturns text := by
  induction text using linesOf_induction with
  | nil => rfl
  | feed rest ih =>
      rw [linesOf_feed, intercalate_nil_cons (linesOf_ne_nil rest), ih, withoutReturns_feed]
  | returnFeed rest ih =>
      rw [linesOf_returnFeed, intercalate_nil_cons (linesOf_ne_nil rest), ih, withoutReturns]
  | cons c rest hstays ih =>
      rw [linesOf_cons hstays, intercalate_modifyHead (linesOf_ne_nil rest), ih,
        withoutReturns_cons hstays]

/-! ## The lines of joined lines -/

/-- A text without line feeds is one line. -/
theorem linesOf_of_not_mem (h : '\n' ∉ text) : linesOf text = [text] := by
  induction text with
  | nil => rw [linesOf_nil]
  | cons c rest ih =>
      rw [List.mem_cons, not_or] at h
      have hstays : StaysOnLine c rest := by
        refine ⟨Ne.symm h.1, ?_⟩
        intro _ hhead
        exact h.2 (List.mem_of_mem_head? hhead)
      rw [linesOf_cons hstays, ih h.2, List.modifyHead_cons]

/-- Behind `front`, a line is over when `ending` stands there. -/
def EndsLine (ending front : List Char) : Prop :=
  ∀ text, linesOf (front ++ (ending ++ text)) = linesOf front ++ linesOf text

theorem endsLine_feed (hlast : front.getLast? ≠ some '\r') : EndsLine ['\n'] front :=
  fun _ => linesOf_append_feed hlast

/-- A carriage return and a line feed end every line.  The induction is on the text before them. -/
theorem endsLine_returnFeed (front : List Char) : EndsLine ['\r', '\n'] front := by
  intro text
  induction front using linesOf_induction with
  | nil => rw [List.nil_append, linesOf_nil]; exact linesOf_returnFeed
  | feed rest ih => rw [List.cons_append, linesOf_feed, linesOf_feed, ih, List.cons_append]
  | returnFeed rest ih =>
      rw [List.cons_append, List.cons_append, linesOf_returnFeed, linesOf_returnFeed, ih,
        List.cons_append]
  | cons c rest hstays ih =>
      have hstays' : StaysOnLine c (rest ++ (['\r', '\n'] ++ text)) := by
        refine ⟨hstays.1, ?_⟩
        intro hreturn
        -- If nothing follows the character, the next one is a carriage return.
        cases rest with
        | nil => simp
        | cons first more => exact hstays.2 hreturn
      rw [List.cons_append, linesOf_cons hstays', linesOf_cons hstays, ih]
      cases hlines : linesOf rest with
      | nil => exact absurd hlines (linesOf_ne_nil rest)
      | cons line lines => rfl

/-- Lines are read back from a text in which they have been joined. -/
theorem linesOf_intercalate (hne : lines ≠ []) (hfeed : ∀ line ∈ lines, '\n' ∉ line)
    (hends : ∀ line ∈ lines.dropLast, EndsLine ending line) :
    linesOf (ending.intercalate lines) = lines := by
  induction lines with
  | nil => exact absurd rfl hne
  | cons line lines ih =>
      have hline := linesOf_of_not_mem (hfeed line List.mem_cons_self)
      cases lines with
      | nil => rw [List.intercalate_singleton, hline]
      | cons next more =>
          have hends' : ∀ line ∈ (next :: more).dropLast, EndsLine ending line := by
            intro line hmem
            exact hends line (List.mem_cons_of_mem _ hmem)
          have hfeed' : ∀ line ∈ next :: more, '\n' ∉ line := by
            intro line hmem
            exact hfeed line (List.mem_cons_of_mem _ hmem)
          rw [List.intercalate_cons_cons, List.append_assoc, hends line List.mem_cons_self, hline,
            ih (List.cons_ne_nil _ _) hfeed' hends', List.singleton_append]

/-- A text is made of its lines but for the carriage returns before line feeds, and lines are read
back from the text that is made of them. -/
theorem lines_joined :
    (∀ text, (∀ line ∈ linesOf text, '\n' ∉ line) ∧
        (linesOf text).length = text.count '\n' + 1 ∧
        ['\n'].intercalate (linesOf text) = withoutReturns text) ∧
      ∀ lines : List (List Char), lines ≠ [] → (∀ line ∈ lines, '\n' ∉ line) →
        linesOf (['\r', '\n'].intercalate lines) = lines ∧
        ((∀ line ∈ lines.dropLast, line.getLast? ≠ some '\r') →
          linesOf (['\n'].intercalate lines) = lines) := by
  refine ⟨?_, ?_⟩
  · intro text
    exact ⟨fun _ => feed_not_mem_of_mem_linesOf, length_linesOf text, intercalate_linesOf text⟩
  · intro lines hne hfeed
    refine ⟨linesOf_intercalate hne hfeed fun line _ => endsLine_returnFeed line, ?_⟩
    intro hreturn
    exact linesOf_intercalate hne hfeed fun line hline => endsLine_feed (hreturn line hline)

/-- Three lines, with a carriage return in the first one and at the end of the last one. -/
theorem sample_lines_joined :
    let lines := [['a', '\r', 'b'], [], ['c', '\r']]
    lines ≠ [] ∧ (∀ line ∈ lines, '\n' ∉ line) ∧
      (∀ line ∈ lines.dropLast, line.getLast? ≠ some '\r') ∧
      linesOf ['a', '\r', 'b', '\r', '\n', '\r', '\n', 'c', '\r'] = lines ∧
      linesOf ['a', '\r', 'b', '\n', '\n', 'c', '\r'] = lines := by
  intro lines
  have hne : lines ≠ [] := by decide
  have hfeed : ∀ line ∈ lines, '\n' ∉ line := by decide
  have hreturn : ∀ line ∈ lines.dropLast, line.getLast? ≠ some '\r' := by decide
  obtain ⟨hreturns, hfeeds⟩ := lines_joined.2 lines hne hfeed
  exact ⟨hne, hfeed, hreturn, hreturns, hfeeds hreturn⟩

/-- A carriage return at the end of a line is lost when a line feed is put behind it. -/
example : linesOf (['\n'].intercalate [['a', '\r'], ['b']]) = [['a'], ['b']] := by decide

end ScopeCheck
