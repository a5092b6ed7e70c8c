import Mathlib.Order.Bounds.Basic
import ScopeCheck.Expectation.Evaluate
import ScopeCheck.Proofs.Fixture.Incremental

/-!
# The line that a check means

A check means one line of a fixture, or there is a cause why it means none.  Four fields may say
which line it is.  They are asked in a fixed order, and the first one with an answer decides.

* `Numbered` are the records of a fixture, counted from one (`recordFixture_numbered`);
* `Evaluation.lineWith_eq_some_iff` and `Evaluation.firstTextAfter_eq_some_iff`: what is found in
  such records is the least number of a line that is looked for;
* `Evaluation.LeadsTo` says what the fields of a check lead to, the cause of a failure included;
* `Evaluation.target_follows` is the result: a check means the line to which its fields lead.
-/

namespace ScopeCheck

open ScopeCheck.Text

/-! ## Numbered records -/

/-- These records are numbered from one on. -/
def Numbered (records : List RecordedLine) : Prop :=
  ∀ index r, records[index]? = some r → r.number = index + 1

/-- The records of a fixture are numbered from one on. -/
theorem recordFixture_numbered {σ : Type} {t : LineMachine σ} {text : String}
    {records : List RecordedLine} (h : recordFixture t text = .ok records) : Numbered records := by
  intro index r hr
  exact (((recordFixture_incremental t).recorded text records h).2 index r hr).number_eq

/-- The numbers of records with a property that stand behind the first `count` ones. -/
def numbersBehind (records : List RecordedLine) (count : Nat) (p : RecordedLine → Prop) :
    Set Nat :=
  {n | count < n ∧ ∃ r ∈ records, r.number = n ∧ p r}

section Searching

variable {records : List RecordedLine} {count n : Nat} {p : RecordedLine → Bool}

/-- The records behind the first `count` ones are those with a greater number. -/
theorem Numbered.mem_drop_iff (h : Numbered records) {r : RecordedLine} :
    r ∈ records.drop count ↔ r ∈ records ∧ count < r.number := by
  constructor
  · intro hr
    obtain ⟨index, hindex⟩ := List.mem_iff_getElem?.1 hr
    rw [List.getElem?_drop] at hindex
    have hnumber := h _ r hindex
    exact ⟨List.mem_of_getElem? hindex, by omega⟩
  · rintro ⟨hr, hcount⟩
    obtain ⟨index, hindex⟩ := List.mem_iff_getElem?.1 hr
    have hnumber := h index r hindex
    have hplace : count + (index - count) = index := by omega
    apply List.mem_of_getElem? (i := index - count)
    rw [List.getElem?_drop, hplace, hindex]

/-- Numbers ascend. -/
theorem Numbered.pairwise (h : Numbered records) :
    records.Pairwise fun r later => r.number < later.number := by
  rw [List.pairwise_iff_getElem]
  intro i j hi hj hij
  rw [h i _ (List.getElem?_eq_getElem hi), h j _ (List.getElem?_eq_getElem hj)]
  omega

/-- Nothing is found if and only if there is nothing to be found. -/
theorem Numbered.find?_eq_none_iff (h : Numbered records) :
    ((records.drop count).find? p).map RecordedLine.number = none ↔
      numbersBehind records count (fun r => p r = true) = ∅ := by
  rw [Option.map_eq_none_iff, List.find?_eq_none, Set.eq_empty_iff_forall_notMem]
  constructor
  · rintro hnone n ⟨hcount, r, hr, rfl, hp⟩
    exact hnone r (h.mem_drop_iff.2 ⟨hr, hcount⟩) hp
  · intro hempty r hr hp
    obtain ⟨hmem, hcount⟩ := h.mem_drop_iff.1 hr
    exact hempty r.number ⟨hcount, r, hmem, rfl, hp⟩

/-- What is found first has the least number. -/
theorem Numbered.find?_eq_some_iff (h : Numbered records) :
    ((records.drop count).find? p).map RecordedLine.number = some n ↔
      IsLeast (numbersBehind records count (fun r => p r = true)) n := by
  have hleast : ∀ {m}, ((records.drop count).find? p).map RecordedLine.number = some m →
      IsLeast (numbersBehind records count (fun r => p r = true)) m := by
    intro m hm
    obtain ⟨r, hfind, rfl⟩ := Option.map_eq_some_iff.1 hm
    obtain ⟨hp, before, behind, hsplit, hbefore⟩ := List.find?_eq_some_iff_append.1 hfind
    obtain ⟨hmem, hcount⟩ := h.mem_drop_iff.1 (List.mem_of_find?_eq_some hfind)
    refine ⟨⟨hcount, r, hmem, rfl, hp⟩, ?_⟩
    rintro n ⟨hn, other, hother, rfl, hpother⟩
    -- The other record does not stand before the one that is found.
    have hdrop := h.pairwise.sublist (List.drop_sublist count records)
    rw [hsplit, List.pairwise_append] at hdrop
    have hplace := h.mem_drop_iff.2 ⟨hother, hn⟩
    rw [hsplit, List.mem_append, List.mem_cons] at hplace
    rcases hplace with hearlier | rfl | hlater
    · exact absurd hpother (by simpa using hbefore other hearlier)
    · exact le_refl _
    · exact Nat.le_of_lt (List.rel_of_pairwise_cons hdrop.2.1 hlater)
  constructor
  · exact hleast
  · intro hn
    cases hfound : ((records.drop count).find? p).map RecordedLine.number with
    | none =>
        rw [h.find?_eq_none_iff] at hfound
        exact absurd hn.1 (by rw [hfound]; exact Set.notMem_empty n)
    | some m => rw [(hleast hfound).unique hn]

end Searching

namespace Evaluation

/-! ## Lines that are looked for -/

/-- The numbers of the lines that contain a text. -/
def linesWith (e : Evaluation) (text : String) : Set Nat :=
  {n | ∃ r ∈ e.records, r.number = n ∧ text.toList <:+: r.text.toList}

/-- A text that does not consist of blanks alone. -/
def HasText (text : String) : Prop := ∃ c ∈ text.toList, isBlank c = false

/-- The numbers behind this one of lines that are not blank. -/
def textLinesBehind (e : Evaluation) (number : Nat) : Set Nat :=
  {n | number < n ∧ ∃ r ∈ e.records, r.number = n ∧ HasText r.text}

variable {e : Evaluation} {c c' : Check} {text : String} {number n : Nat}

theorem linesWith_eq (h : Numbered e.records) :
    e.linesWith text =
      numbersBehind e.records 0 (fun r => occursIn text.toList r.text.toList = true) := by
  ext n
  simp only [linesWith, numbersBehind, Set.mem_ofPred_eq, occursIn_iff_infix]
  constructor
  · rintro ⟨r, hr, rfl, htext⟩
    obtain ⟨index, hindex⟩ := List.mem_iff_getElem?.1 hr
    have hnumber := h index r hindex
    exact ⟨by omega, r, hr, rfl, htext⟩
  · rintro ⟨_, hr⟩
    exact hr

theorem textLinesBehind_eq :
    e.textLinesBehind number =
      numbersBehind e.records number (fun r => (!allBlank r.text.toList) = true) := by
  ext n
  simp [textLinesBehind, numbersBehind, HasText, allBlank]

/-- The line that is found for a text is the first one that contains it. -/
theorem lineWith_eq_some_iff (h : Numbered e.records) :
    e.lineWith text = some n ↔ IsLeast (e.linesWith text) n := by
  rw [linesWith_eq h, ← h.find?_eq_some_iff]
  rfl

theorem lineWith_eq_none_iff (h : Numbered e.records) :
    e.lineWith text = none ↔ e.linesWith text = ∅ := by
  rw [linesWith_eq h, ← h.find?_eq_none_iff]
  rfl

/-- The line that is found behind another one is the first one there that is not blank. -/
theorem firstTextAfter_eq_some_iff (h : Numbered e.records) :
    e.firstTextAfter number = some n ↔ IsLeast (e.textLinesBehind number) n := by
  rw [textLinesBehind_eq, ← h.find?_eq_some_iff]
  rfl

theorem firstTextAfter_eq_none_iff (h : Numbered e.records) :
    e.firstTextAfter number = none ↔ e.textLinesBehind number = ∅ := by
  rw [textLinesBehind_eq, ← h.find?_eq_none_iff]
  rfl

/-! ## What the fields lead to -/

/-- No line contains the text that the line should contain, if there is one. -/
def PassesText (e : Evaluation) (c : Check) : Prop :=
  ∀ text, c.containing = some text → e.linesWith text = ∅

/-- Neither this text nor a number says which line it is. -/
def PassesLine (e : Evaluation) (c : Check) : Prop := e.PassesText c ∧ c.line = .absent

/-- A line behind which to look, by number or as the first one with a text. -/
inductive LooksBehind (e : Evaluation) (c : Check) : Nat → Prop
  | afterMatch {text : String} {found : Nat} (hpasses : e.PassesLine c)
      (htext : c.afterMatch = some text) (hfound : IsLeast (e.linesWith text) found) :
      LooksBehind e c found
  | afterLine {number : Nat} (hpasses : e.PassesLine c) (htext : c.afterMatch = none)
      (hnumber : c.afterLine = .value number) : LooksBehind e c number

/-- What the fields of a check lead to.  A field is asked if those before it have no answer. -/
inductive LeadsTo (e : Evaluation) (c : Check) : Except FailureCause Nat → Prop
  | containing {text : String} {n : Nat} (htext : c.containing = some text)
      (hn : IsLeast (e.linesWith text) n) : LeadsTo e c (.ok n)
  | line {n : Nat} (hpasses : e.PassesText c) (hline : c.line = .value n) : LeadsTo e c (.ok n)
  | invalidLine {shown : String} (hpasses : e.PassesText c) (hline : c.line = .invalid shown) :
      LeadsTo e c (.error (.invalidField "line" shown))
  | behind {number n : Nat} (hlooks : e.LooksBehind c number)
      (hn : IsLeast (e.textLinesBehind number) n) : LeadsTo e c (.ok n)
  | matchNotFound {text : String} (hpasses : e.PassesLine c) (htext : c.afterMatch = some text)
      (hnone : e.linesWith text = ∅) : LeadsTo e c (.error (.afterMatchNotFound text))
  | nothingAfterMatch {text : String} {found : Nat} (hpasses : e.PassesLine c)
      (htext : c.afterMatch = some text) (hfound : IsLeast (e.linesWith text) found)
      (hnone : e.textLinesBehind found = ∅) : LeadsTo e c (.error (.noLineAfterMatch text))
  | nothingAfterLine {number : Nat} (hpasses : e.PassesLine c) (htext : c.afterMatch = none)
      (hnumber : c.afterLine = .value number) (hnone : e.textLinesBehind number = ∅) :
      LeadsTo e c (.error (.noLineAfterLine number))
  | invalidAfterLine {shown : String} (hpasses : e.PassesLine c) (htext : c.afterMatch = none)
      (hnumber : c.afterLine = .invalid shown) :
      LeadsTo e c (.error (.invalidField "afterLine" shown))
  | unresolved (hpasses : e.PassesLine c) (htext : c.afterMatch = none)
      (hnumber : c.afterLine = .absent) : LeadsTo e c (.error .unresolved)

/-- The first text leads nowhere if and only if no line is found for it. -/
theorem passesText_iff (h : Numbered e.records) :
    e.PassesText c ↔ c.containing.bind e.lineWith = none := by
  cases hc : c.containing with
  | none => simp [PassesText, hc]
  | some text => simp [PassesText, hc, lineWith_eq_none_iff h]

/-- The line behind the first one with a text, or why there is none. -/
theorem leadsTo_lineAfterMatch (h : Numbered e.records) (hpasses : e.PassesLine c)
    (htext : c.afterMatch = some text) : e.LeadsTo c (e.lineAfterMatch text) := by
  unfold lineAfterMatch
  cases hfound : e.lineWith text with
  | none => exact .matchNotFound hpasses htext ((lineWith_eq_none_iff h).1 hfound)
  | some found =>
      rw [lineWith_eq_some_iff h] at hfound
      dsimp only
      cases hline : e.firstTextAfter found with
      | none =>
          exact .nothingAfterMatch hpasses htext hfound ((firstTextAfter_eq_none_iff h).1 hline)
      | some n =>
          exact .behind (.afterMatch hpasses htext hfound)
            ((firstTextAfter_eq_some_iff h).1 hline)

/-- The line behind the one with a number, or why there is none. -/
theorem leadsTo_lineAfterLine (h : Numbered e.records) (hpasses : e.PassesLine c)
    (htext : c.afterMatch = none) : e.LeadsTo c (e.lineAfterLine c.afterLine) := by
  unfold lineAfterLine
  cases hnumber : c.afterLine with
  | absent => exact .unresolved hpasses htext hnumber
  | invalid shown => exact .invalidAfterLine hpasses htext hnumber
  | value number =>
      simp only [Lenient.get]
      cases hline : e.firstTextAfter number with
      | none =>
          exact .nothingAfterLine hpasses htext hnumber ((firstTextAfter_eq_none_iff h).1 hline)
      | some n =>
          exact .behind (.afterLine hpasses htext hnumber) ((firstTextAfter_eq_some_iff h).1 hline)

/-- A check means the line to which its fields lead. -/
theorem leadsTo_target (h : Numbered e.records) (c : Check) : e.LeadsTo c (e.target c) := by
  unfold target
  cases hfirst : c.containing.bind e.lineWith with
  | some n =>
      obtain ⟨text, htext, hn⟩ := Option.bind_eq_some_iff.1 hfirst
      exact .containing htext ((lineWith_eq_some_iff h).1 hn)
  | none =>
      have hpasses := (passesText_iff h).2 hfirst
      cases hline : c.line with
      | invalid shown => exact .invalidLine hpasses hline
      | value n => exact .line hpasses hline
      | absent =>
          simp only [Lenient.get]
          cases htext : c.afterMatch with
          | some text => exact leadsTo_lineAfterMatch h ⟨hpasses, hline⟩ htext
          | none => exact leadsTo_lineAfterLine h ⟨hpasses, hline⟩ htext

/-- Without an answer of the first two fields, a text behind whose line to look decides. -/
theorem target_of_afterMatch (h : Numbered e.records) (hpasses : e.PassesLine c)
    (htext : c.afterMatch = some text) : e.target c = e.lineAfterMatch text := by
  simp only [target, (passesText_iff h).1 hpasses.1, hpasses.2, htext, Lenient.get]

/-- Without this text either, the number of a line behind which to look decides. -/
theorem target_of_afterLine (h : Numbered e.records) (hpasses : e.PassesLine c)
    (htext : c.afterMatch = none) : e.target c = e.lineAfterLine c.afterLine := by
  simp only [target, (passesText_iff h).1 hpasses.1, hpasses.2, htext, Lenient.get]

/-- The fields of a check lead to one result only: the line that it means, or why there is none. -/
theorem LeadsTo.target_eq (h : Numbered e.records) {result : Except FailureCause Nat}
    (hleads : e.LeadsTo c result) : e.target c = result := by
  cases hleads with
  | containing htext hn => simp [target, htext, (lineWith_eq_some_iff h).2 hn]
  | line hpasses hline => simp [target, (passesText_iff h).1 hpasses, hline, Lenient.get]
  | invalidLine hpasses hline => simp [target, (passesText_iff h).1 hpasses, hline, Lenient.get]
  | behind hlooks hn =>
      have hline := (firstTextAfter_eq_some_iff h).2 hn
      cases hlooks with
      | afterMatch hpasses htext hfound =>
          rw [target_of_afterMatch h hpasses htext]
          simp [lineAfterMatch, (lineWith_eq_some_iff h).2 hfound, hline]
      | afterLine hpasses htext hnumber =>
          rw [target_of_afterLine h hpasses htext, hnumber]
          simp [lineAfterLine, Lenient.get, hline]
  | matchNotFound hpasses htext hnone =>
      rw [target_of_afterMatch h hpasses htext]
      simp [lineAfterMatch, (lineWith_eq_none_iff h).2 hnone]
  | nothingAfterMatch hpasses htext hfound hnone =>
      rw [target_of_afterMatch h hpasses htext]
      simp [lineAfterMatch, (lineWith_eq_some_iff h).2 hfound,
        (firstTextAfter_eq_none_iff h).2 hnone]
  | nothingAfterLine hpasses htext hnumber hnone =>
      rw [target_of_afterLine h hpasses htext, hnumber]
      simp [lineAfterLine, Lenient.get, (firstTextAfter_eq_none_iff h).2 hnone]
  | invalidAfterLine hpasses htext hnumber =>
      rw [target_of_afterLine h hpasses htext, hnumber]
      simp [lineAfterLine, Lenient.get]
  | unresolved hpasses htext hnumber =>
      rw [target_of_afterLine h hpasses htext, hnumber]
      simp [lineAfterLine, Lenient.get]

/-! ## What follows from the order -/

/-- Another check agrees with a check in the fields up to one that has an answer. -/
inductive AgreesUntilAnswered (e : Evaluation) (c c' : Check) : Prop
  | containing (htext : c'.containing = c.containing) (hanswer : ¬ e.PassesText c)
  | line (htext : c'.containing = c.containing) (hline : c'.line = c.line)
      (hanswer : c.line ≠ .absent)
  | afterMatch (htext : c'.containing = c.containing) (hline : c'.line = c.line)
      (hmatch : c'.afterMatch = c.afterMatch) (hanswer : c.afterMatch ≠ none)

/-- How a check is led to a line. -/
structure FollowsFields (e : Evaluation) (c : Check) : Prop where
  /-- The line, or the cause why there is none, is the one to which the fields lead. -/
  target_iff : ∀ result, e.target c = result ↔ e.LeadsTo c result
  /-- A line that the check does not give by its number has a record. -/
  recorded : ∀ n, e.target c = .ok n →
    (e.PassesText c ∧ c.line = .value n) ∨ ∃ r ∈ e.records, r.number = n
  /-- A line that is looked for behind another one is not blank, and the lines between them are. -/
  adjacent : ∀ number n, e.LooksBehind c number → e.target c = .ok n →
    number < n ∧ (∃ r ∈ e.records, r.number = n ∧ HasText r.text) ∧
      ∀ r ∈ e.records, number < r.number → r.number < n → ¬ HasText r.text
  /-- The fields behind one that has an answer do not matter. -/
  target_eq : ∀ c', e.AgreesUntilAnswered c c' → e.target c' = e.target c

/-- A line to which a check is led without its number is that of a record. -/
theorem LeadsTo.recorded (hleads : e.LeadsTo c (.ok n)) :
    (e.PassesText c ∧ c.line = .value n) ∨ ∃ r ∈ e.records, r.number = n := by
  generalize hresult : (Except.ok n : Except FailureCause Nat) = result at hleads
  cases hleads with
  | containing htext hn =>
      obtain rfl := Except.ok.inj hresult
      obtain ⟨r, hr, hnumber, _⟩ := hn.1
      exact Or.inr ⟨r, hr, hnumber⟩
  | line hpasses hline =>
      obtain rfl := Except.ok.inj hresult
      exact Or.inl ⟨hpasses, hline⟩
  | behind hlooks hn =>
      obtain rfl := Except.ok.inj hresult
      obtain ⟨_, r, hr, hnumber, _⟩ := hn.1
      exact Or.inr ⟨r, hr, hnumber⟩
  | _ => cases hresult

/-- A check that looks behind a line looks behind this one only. -/
theorem LooksBehind.unique {number' : Nat} (h : e.LooksBehind c number)
    (h' : e.LooksBehind c number') : number = number' := by
  cases h with
  | afterMatch _ htext hfound =>
      cases h' with
      | afterMatch _ htext' hfound' =>
          rw [htext] at htext'
          obtain rfl := Option.some.inj htext'
          exact hfound.unique hfound'
      | afterLine _ htext' _ => simp [htext] at htext'
  | afterLine _ htext hnumber =>
      cases h' with
      | afterMatch _ htext' _ => simp [htext] at htext'
      | afterLine _ _ hnumber' =>
          rw [hnumber] at hnumber'
          exact Lenient.value.inj hnumber'

theorem LooksBehind.passesLine (h : e.LooksBehind c number) : e.PassesLine c := by
  cases h with
  | afterMatch hpasses _ _ => exact hpasses
  | afterLine hpasses _ _ => exact hpasses

/-- What a check finds behind a line is the first line there that is not blank. -/
theorem LeadsTo.isLeast (hleads : e.LeadsTo c (.ok n)) (hlooks : e.LooksBehind c number) :
    IsLeast (e.textLinesBehind number) n := by
  -- The first two fields have no answer, so that they lead to no line.
  obtain ⟨hpasses, habsent⟩ := hlooks.passesLine
  generalize hresult : (Except.ok n : Except FailureCause Nat) = result at hleads
  cases hleads with
  | containing htext hn =>
      have hempty := hpasses _ htext
      exact absurd hn.1 (hempty ▸ Set.notMem_empty _)
  | line _ hline =>
      rw [habsent] at hline
      cases hline
  | behind hlooks' hn =>
      obtain rfl := Except.ok.inj hresult
      obtain rfl := hlooks.unique hlooks'
      exact hn
  | _ => cases hresult

/-- A field that has an answer makes those behind it superfluous. -/
theorem target_of_agreesUntilAnswered (h : Numbered e.records)
    (hagrees : e.AgreesUntilAnswered c c') : e.target c' = e.target c := by
  cases hagrees with
  | containing htext hanswer =>
      rw [passesText_iff h] at hanswer
      obtain ⟨n, hn⟩ := Option.ne_none_iff_exists'.1 hanswer
      simp only [target, htext, hn]
  | line htext hline hanswer =>
      cases hfield : c.line with
      | absent => exact absurd hfield hanswer
      | value n => simp only [target, htext, hline, hfield, Lenient.get]
      | invalid shown => simp only [target, htext, hline, hfield, Lenient.get]
  | afterMatch htext hline hmatch hanswer =>
      obtain ⟨text, hfield⟩ := Option.ne_none_iff_exists'.1 hanswer
      simp only [target, htext, hline, hmatch, hfield]

/-- A check means the line to which its fields lead: the first one of them that has an answer
decides. -/
theorem target_follows (h : Numbered e.records) (c : Check) : e.FollowsFields c where
  target_iff := by
    intro result
    constructor
    · rintro rfl
      exact leadsTo_target h c
    · intro hleads
      exact hleads.target_eq h
  recorded := by
    intro n hn
    exact LeadsTo.recorded (hn ▸ leadsTo_target h c)
  adjacent := by
    intro number n hlooks hn
    obtain ⟨⟨hbehind, hrecord⟩, hleast⟩ := LeadsTo.isLeast (hn ▸ leadsTo_target h c) hlooks
    refine ⟨hbehind, hrecord, ?_⟩
    intro r hr hnumber hbefore htext
    -- With text it would be looked for as well.
    have hle := hleast ⟨hnumber, r, hr, rfl, htext⟩
    omega
  target_eq := by
    intro c' hagrees
    exact target_of_agreesUntilAnswered h hagrees

end Evaluation

namespace Sample

/-- A machine that finds no scopes. -/
def quietMachine : LineMachine Unit := ⟨(), fun _ _ => .ok ([], ())⟩

/-- The records of a text with two blank lines. -/
def gapRecords : List RecordedLine := [⟨1, "a", []⟩, ⟨2, "", []⟩, ⟨3, "\t", []⟩, ⟨4, "b", []⟩]

theorem gapRecords_numbered : Numbered gapRecords :=
  recordFixture_numbered (show recordFixture quietMachine "a\n\n\t\nb" = .ok gapRecords by rfl)

/-- A check whose first text is missing and whose last field is not reached. -/
def gapCheck : Check where
  containing := some "c"
  line := .absent
  afterMatch := some "a"
  afterLine := .invalid "-1"
  hasAny := .value []
  notHasAny := .absent
  note := none

end Sample

open Sample in
theorem Evaluation.sample_target_follows :
    let e : Evaluation := ⟨"f", gapRecords, 25⟩
    Numbered e.records ∧ e.FollowsFields gapCheck ∧ e.target gapCheck = .ok 4 :=
  ⟨gapRecords_numbered, target_follows gapRecords_numbered gapCheck, rfl⟩

end ScopeCheck
