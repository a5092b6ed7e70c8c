import Mathlib.Data.List.Forall2
import ScopeCheck.Proofs.Fixture.Incremental
import ScopeCheck.Proofs.Json.Strings
import ScopeCheck.Proofs.Text.Digits
import ScopeCheck.Report

/-!
# What a dump tells

Between its opening and its closing, a dump has two lines for every record: one with the number and
the text of the line, and one with its first scopes.  A text can look like any of these lines, and a
number can be wider than its column; still the dump tells what has been recorded.

* `Report.toList_dump`: the lines of a dump;
* `Report.terminated_inj`: lines are known from the text that they make up;
* `Report.numberLine_inj` and `Report.scopesLine_inj`: what the two lines of a record tell of it;
* `Report.dump_faithful` is the result: two lists of records have the same dump if and only if they
  are alike in what is shown.
-/

namespace ScopeCheck

namespace Report

open ScopeCheck.Text

variable {style : DumpStyle} {fixture : String} {r r' : RecordedLine}
  {records records' : List RecordedLine}

/-! ## The lines of a dump -/

/-- What stands before the records. -/
def opening (fixture : String) : List Char := ("--- DUMP: " ++ fixture ++ " ---\n").toList

/-- What stands behind the records. -/
def closing (fixture : String) : List Char := ("--- END DUMP: " ++ fixture ++ " ---\n").toList

/-- The line with the number and the text of a record. -/
def numberLine (style : DumpStyle) (r : RecordedLine) : List Char :=
  (paddedNumber style.numberWidth r.number).toList ++ ' ' :: '|' :: ' ' :: r.text.toList

/-- The line with the first scopes of a record. -/
def scopesLine (style : DumpStyle) (r : RecordedLine) : List Char :=
  ("     scopes: " ++ shownList (r.scopes.take style.sampleSize)).toList

/-- The two lines of a record. -/
def linesFor (style : DumpStyle) (r : RecordedLine) : List (List Char) :=
  [numberLine style r, scopesLine style r]

/-- The text of lines that end in line feeds. -/
def terminated (lines : List (List Char)) : List Char := lines.flatMap (· ++ ['\n'])

theorem terminated_cons (line : List Char) (lines : List (List Char)) :
    terminated (line :: lines) = line ++ '\n' :: terminated lines := by
  rw [terminated, List.flatMap_cons, List.append_assoc, List.singleton_append]
  rfl

theorem toList_recordText :
    (recordText style r).toList = terminated (linesFor style r) := by
  have hbar : " | ".toList = [' ', '|', ' '] := by rfl
  have hmark : "\n     scopes: ".toList = '\n' :: "     scopes: ".toList := by rfl
  have hfeed : "\n".toList = ['\n'] := by rfl
  simp only [recordText, terminated, linesFor, numberLine, scopesLine, String.toList_append, hbar,
    hmark, hfeed, List.flatMap_cons, List.flatMap_nil, List.append_assoc, List.cons_append,
    List.nil_append, List.append_nil]

theorem toList_recordTexts :
    (String.join (records.map (recordText style))).toList =
      terminated (records.flatMap (linesFor style)) := by
  rw [String.toList_join, List.flatMap_map, terminated, List.flatMap_assoc]
  simp only [toList_recordText]
  rfl

/-- A dump is made of its opening, the lines of the records, and its closing. -/
theorem toList_dump (style : DumpStyle) (fixture : String) (records : List RecordedLine) :
    (dump style fixture records).toList =
      opening fixture ++ terminated (records.flatMap (linesFor style)) ++ closing fixture := by
  rw [dump, opening, closing, ← toList_recordTexts]
  simp only [String.toList_append, List.append_assoc]

theorem length_linesFor : (linesFor style r).length = 2 := rfl

theorem length_flatMap_linesFor (style : DumpStyle) (records : List RecordedLine) :
    (records.flatMap (linesFor style)).length = 2 * records.length := by
  induction records with
  | nil => rfl
  | cons r records ih =>
      rw [List.flatMap_cons, List.length_append, ih, length_linesFor, List.length_cons]
      omega

/-! ## Line feeds -/

/-- The texts of these records have no line feed. -/
def HasPlainTexts (records : List RecordedLine) : Prop := ∀ r ∈ records, '\n' ∉ r.text.toList

/-- The texts of the records of a fixture are lines, so that they have none. -/
theorem recordFixture_hasPlainTexts {σ : Type} {t : LineMachine σ} {text : String}
    (h : recordFixture t text = .ok records) : HasPlainTexts records := by
  intro r hr
  obtain ⟨index, hindex⟩ := List.mem_iff_getElem?.1 hr
  have hline := (((recordFixture_incremental t).recorded text records h).2 index r hindex).text_eq
  obtain ⟨line, hmem, hline⟩ := List.mem_map.1 (List.mem_of_getElem? hline)
  rw [← hline, String.toList_ofList]
  exact feed_not_mem_of_mem_linesOf hmem

theorem toList_paddedNumber (width number : Nat) :
    (paddedNumber width number).toList =
      List.replicate (width - (Numeral.digits 10 number).length) ' ' ++
        Numeral.digits 10 number :=
  String.toList_ofList

theorem feed_not_mem_numberLine (h : '\n' ∉ r.text.toList) : '\n' ∉ numberLine style r := by
  have hdigits : '\n' ∉ Numeral.digits 10 r.number := by
    intro hmem
    have hdecimal := Numeral.isDecimal_of_mem_digits hmem
    revert hdecimal
    decide
  simp [numberLine, toList_paddedNumber, hdigits, h]

theorem feed_not_mem_scopesLine : '\n' ∉ scopesLine style r := by
  rw [scopesLine, String.toList_append, List.mem_append, not_or]
  exact ⟨by simp, Json.feed_not_mem_strings _⟩

theorem HasPlainTexts.feed_not_mem (h : HasPlainTexts records) {line : List Char}
    (hline : line ∈ records.flatMap (linesFor style)) : '\n' ∉ line := by
  obtain ⟨r, hr, hline⟩ := List.mem_flatMap.1 hline
  simp only [linesFor, List.mem_cons, List.not_mem_nil, or_false] at hline
  rcases hline with hline | hline
  · rw [hline]
    exact feed_not_mem_numberLine (h r hr)
  · rw [hline]
    exact feed_not_mem_scopesLine

/-- A line ends at the first line feed. -/
theorem append_feed_inj {line line' rest rest' : List Char} (hline : '\n' ∉ line)
    (hline' : '\n' ∉ line') (h : line ++ '\n' :: rest = line' ++ '\n' :: rest') :
    line = line' ∧ rest = rest' := by
  induction line generalizing line' with
  | nil =>
      cases line' with
      | nil => exact ⟨rfl, (List.cons.inj h).2⟩
      | cons c line' => exact absurd ((List.cons.inj h).1 ▸ List.mem_cons_self) hline'
  | cons c line ih =>
      cases line' with
      | nil => exact absurd ((List.cons.inj h).1 ▸ List.mem_cons_self) hline
      | cons c' line' =>
          obtain ⟨rfl, hrest⟩ := List.cons.inj h
          obtain ⟨rfl, hbehind⟩ := ih (fun hmem => hline (List.mem_cons_of_mem _ hmem))
            (fun hmem => hline' (List.mem_cons_of_mem _ hmem)) hrest
          exact ⟨rfl, hbehind⟩

/-- Lines are known from the text that they make up. -/
theorem terminated_inj {lines lines' : List (List Char)} (hlines : ∀ line ∈ lines, '\n' ∉ line)
    (hlines' : ∀ line ∈ lines', '\n' ∉ line) (h : terminated lines = terminated lines') :
    lines = lines' := by
  induction lines generalizing lines' with
  | nil =>
      cases lines' with
      | nil => rfl
      | cons line' lines' =>
          rw [terminated_cons] at h
          exact absurd h.symm (List.append_ne_nil_of_right_ne_nil _ (List.cons_ne_nil _ _))
  | cons line lines ih =>
      cases lines' with
      | nil =>
          rw [terminated_cons] at h
          exact absurd h (List.append_ne_nil_of_right_ne_nil _ (List.cons_ne_nil _ _))
      | cons line' lines' =>
          rw [terminated_cons, terminated_cons] at h
          rw [List.forall_mem_cons] at hlines hlines'
          obtain ⟨rfl, hrest⟩ := append_feed_inj hlines.1 hlines'.1 h
          rw [ih hlines.2 hlines'.2 hrest]

/-! ## What a line tells -/

/-- Behind the blanks of its first line a record has its number, up to the first character that is
no digit. -/
theorem takeWhile_numberLine (style : DumpStyle) (r : RecordedLine) :
    ((numberLine style r).dropWhile (· = ' ')).takeWhile Numeral.isDecimal =
        Numeral.digits 10 r.number ∧
      ((numberLine style r).dropWhile (· = ' ')).dropWhile Numeral.isDecimal =
        ' ' :: '|' :: ' ' :: r.text.toList := by
  have hdigits : ∀ c ∈ Numeral.digits 10 r.number, Numeral.isDecimal c = true :=
    fun c hc => Numeral.isDecimal_of_mem_digits hc
  have hblanks : (numberLine style r).dropWhile (· = ' ') =
      Numeral.digits 10 r.number ++ ' ' :: '|' :: ' ' :: r.text.toList := by
    rw [numberLine, toList_paddedNumber, List.append_assoc, List.dropWhile_append_of_pos (by simp)]
    -- The first digit is no blank.
    have hsome : Numeral.digits 10 r.number ≠ [] := Numeral.digits_ne_nil
    obtain ⟨first, more, hfirst⟩ := List.exists_cons_of_ne_nil hsome
    have hdecimal := hdigits first (hfirst ▸ List.mem_cons_self)
    have hblank : first ≠ ' ' := by
      rintro rfl
      revert hdecimal
      decide
    rw [hfirst, List.cons_append, List.dropWhile_cons_of_neg (by simpa using hblank)]
  have hstop : Numeral.isDecimal ' ' = false := by decide
  rw [hblanks, List.takeWhile_append_of_pos hdigits, List.dropWhile_append_of_pos hdigits]
  simp [hstop]

/-- The first line of a record tells its number and its text. -/
theorem numberLine_inj (h : numberLine style r = numberLine style r') :
    r.number = r'.number ∧ r.text = r'.text := by
  obtain ⟨hnumber, htext⟩ := takeWhile_numberLine style r
  obtain ⟨hnumber', htext'⟩ := takeWhile_numberLine style r'
  rw [h, hnumber'] at hnumber
  rw [h, htext'] at htext
  constructor
  · have hvalue := congrArg (Numeral.value 10) hnumber
    rw [Numeral.value_digits (by omega) (by omega), Numeral.value_digits (by omega) (by omega)]
      at hvalue
    exact hvalue.symm
  · simp only [List.cons.injEq, true_and] at htext
    exact String.toList_injective htext.symm

/-- The second line tells the first scopes. -/
theorem scopesLine_inj (h : scopesLine style r = scopesLine style r') :
    r.scopes.take style.sampleSize = r'.scopes.take style.sampleSize := by
  rw [scopesLine, scopesLine, String.toList_append, String.toList_append] at h
  exact Json.compact_strings_inj (String.toList_injective (List.append_cancel_left h))

/-! ## The dump -/

/-- A dump shows these two records alike. -/
structure ShownAlike (style : DumpStyle) (r r' : RecordedLine) : Prop where
  number_eq : r.number = r'.number
  text_eq : r.text = r'.text
  sample_eq : r.scopes.take style.sampleSize = r'.scopes.take style.sampleSize

theorem linesFor_eq_iff : linesFor style r = linesFor style r' ↔ ShownAlike style r r' := by
  constructor
  · intro h
    simp only [linesFor, List.cons.injEq, and_true] at h
    obtain ⟨hnumber, hscopes⟩ := h
    obtain ⟨hnumber, htext⟩ := numberLine_inj hnumber
    exact ⟨hnumber, htext, scopesLine_inj hscopes⟩
  · rintro ⟨hnumber, htext, hsample⟩
    rw [linesFor, linesFor, numberLine, numberLine, scopesLine, scopesLine, hnumber, htext, hsample]

/-- The lines of a dump tell the records one after the other. -/
theorem flatMap_linesFor_eq_iff :
    records.flatMap (linesFor style) = records'.flatMap (linesFor style) ↔
      List.Forall₂ (ShownAlike style) records records' := by
  induction records generalizing records' with
  | nil =>
      cases records' with
      | nil => simp
      | cons r' records' => simp [linesFor]
  | cons r records ih =>
      cases records' with
      | nil => simp [linesFor]
      | cons r' records' =>
          -- The lines of both lists part at the same place.
          have hlength : (linesFor style r).length = (linesFor style r').length := by
            rw [length_linesFor, length_linesFor]
          rw [List.flatMap_cons, List.flatMap_cons, List.forall₂_cons, ← linesFor_eq_iff, ← ih]
          constructor
          · intro h
            exact List.append_inj h hlength
          · rintro ⟨hr, hrest⟩
            rw [hr, hrest]

/-- Between its opening and its closing a dump consists of two lines for each record. -/
def HasTwoLinesEach (style : DumpStyle) (fixture : String) (records : List RecordedLine) : Prop :=
  ∃ lines : List (List Char), lines.length = 2 * records.length ∧ (∀ line ∈ lines, '\n' ∉ line) ∧
    (dump style fixture records).toList = opening fixture ++ terminated lines ++ closing fixture

/-- Records whose texts have no line feed have the same dump if and only if it shows them alike, one
by one; and it has two lines for each. -/
theorem dump_faithful (style : DumpStyle) (fixture : String) (h : HasPlainTexts records)
    (h' : HasPlainTexts records') :
    (dump style fixture records = dump style fixture records' ↔
        List.Forall₂ (ShownAlike style) records records') ∧
      HasTwoLinesEach style fixture records := by
  constructor
  · rw [← flatMap_linesFor_eq_iff, ← String.toList_inj, toList_dump, toList_dump]
    constructor
    · intro hdump
      have hlines := List.append_cancel_left (List.append_cancel_right hdump)
      exact terminated_inj (fun _ => h.feed_not_mem) (fun _ => h'.feed_not_mem) hlines
    · intro hlines
      rw [hlines]
  · exact ⟨_, length_flatMap_linesFor style records, fun _ => h.feed_not_mem,
      toList_dump style fixture records⟩

end Report

namespace Sample

/-- A machine that gives the scope `x` to every line, and another one behind it. -/
def pairMachine (scope : String) : LineMachine Unit := ⟨(), fun _ _ => .ok ([["x", scope]], ())⟩

/-- A text whose first line looks like the second line of a record. -/
def misleadingText : String := "     scopes: []\n10 | a"

def misleadingRecords (scope : String) : List RecordedLine :=
  [⟨1, "     scopes: []", ["x", scope]⟩, ⟨2, "10 | a", ["x", scope]⟩]

theorem misleadingRecords_hasPlainTexts :
    Report.HasPlainTexts (misleadingRecords "y") ∧ Report.HasPlainTexts (misleadingRecords "z") :=
  ⟨Report.recordFixture_hasPlainTexts
      (show recordFixture (pairMachine "y") misleadingText = .ok (misleadingRecords "y") by rfl),
    Report.recordFixture_hasPlainTexts
      (show recordFixture (pairMachine "z") misleadingText = .ok (misleadingRecords "z") by rfl)⟩

end Sample

open Sample in
/-- Scopes behind the first one are not shown, if one is to be shown. -/
theorem Report.sample_dump_faithful :
    HasPlainTexts (misleadingRecords "y") ∧ HasPlainTexts (misleadingRecords "z") ∧
      (dump ⟨1, 4⟩ "f" (misleadingRecords "y") = dump ⟨1, 4⟩ "f" (misleadingRecords "z") ↔
        List.Forall₂ (ShownAlike ⟨1, 4⟩) (misleadingRecords "y") (misleadingRecords "z")) ∧
      HasTwoLinesEach ⟨1, 4⟩ "f" (misleadingRecords "y") ∧
      List.Forall₂ (ShownAlike ⟨1, 4⟩) (misleadingRecords "y") (misleadingRecords "z") := by
  obtain ⟨hplain, hplain'⟩ := misleadingRecords_hasPlainTexts
  obtain ⟨hdump, hlines⟩ := dump_faithful ⟨1, 4⟩ "f" hplain hplain'
  exact ⟨hplain, hplain', hdump, hlines, .cons ⟨rfl, rfl, rfl⟩ (.cons ⟨rfl, rfl, rfl⟩ .nil)⟩

end ScopeCheck
