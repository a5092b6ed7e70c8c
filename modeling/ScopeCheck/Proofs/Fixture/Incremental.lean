import ScopeCheck.Proofs.Fixture.Lines
import ScopeCheck.Proofs.Run.Recorded

/-!
# Recording a fixture in parts

A machine that tokenizes line by line carries a state from each line to the next one, and nothing
else.  So a text can be recorded in two parts: the second part starts in the state to which the
first one leads, and its lines are numbered on.

* `recordLines_append` says this of lines: the induction is on the lines of the first part;
* `recordLines_later`: the number of the first line moves all numbers, also that of an error;
* `firstOccurrences_listsFirst`: the scopes of a record are those of its tokens, each once, in the
  order in which they appear first;
* `recordFixture_incremental` says all of this of texts.
-/

namespace ScopeCheck

variable {σ : Type} {t : LineMachine σ}

/-! ## Numbers -/

/-- The record of a line that stands so many lines later. -/
def RecordedLine.later (count : Nat) (r : RecordedLine) : RecordedLine :=
  { r with number := r.number + count }

/-- The error at a line that stands so many lines later. -/
def FixtureError.later (count : Nat) (e : FixtureError) : FixtureError :=
  { e with line := e.line + count }

/-- What recording gives for lines that stand so many lines later. -/
def recordedLater (count : Nat) :
    Except FixtureError (List RecordedLine) → Except FixtureError (List RecordedLine)
  | .error e => .error (e.later count)
  | .ok records => .ok (records.map (RecordedLine.later count))

/-- The number of the first line moves all numbers. -/
theorem recordLines_later {number count : Nat} {state : σ} {lines : List (List Char)} :
    recordLines t (number + count) state lines =
      recordedLater count (recordLines t number state lines) := by
  induction lines generalizing number state with
  | nil => rfl
  | cons line lines ih =>
      cases hline : t.line (String.ofList line) state with
      | error cause => simp only [recordLines, hline, recordedLater, FixtureError.later]
      | ok result =>
          obtain ⟨tokens, next⟩ := result
          have hnumber : number + count + 1 = number + 1 + count := by omega
          simp only [recordLines, hline, hnumber, ih]
          cases recordLines t (number + 1) next lines with
          | error e => rfl
          | ok records => rfl

/-! ## States -/

/-- The machine that starts in another state. -/
def LineMachine.startingAt (t : LineMachine σ) (state : σ) : LineMachine σ :=
  { t with initial := state }

/-- Lines that are read from a state on do not depend on the state in which the machine starts. -/
theorem recordLines_startingAt {start state : σ} {number : Nat} {lines : List (List Char)} :
    recordLines (t.startingAt start) number state lines = recordLines t number state lines := by
  induction lines generalizing number state with
  | nil => rfl
  | cons line lines ih =>
      have hline : (t.startingAt start).line = t.line := rfl
      simp only [recordLines, hline, ih]

/-- Lines are recorded one part after the other.  If the first part fails, this is the result;
otherwise the second part goes on from the state to which the first one leads. -/
theorem recordLines_append {read : List String} {state : σ} (front back : List (List Char))
    (hleads : t.Leads read state) :
    match recordLines t (read.length + 1) state front with
    | .error e => recordLines t (read.length + 1) state (front ++ back) = .error e
    | .ok records => ∃ next, t.Leads (read ++ front.map String.ofList) next ∧
        recordLines t (read.length + 1) state (front ++ back) =
          (recordLines t (read.length + 1 + front.length) next back).map (records ++ ·) := by
  induction front generalizing read state with
  | nil =>
      refine ⟨state, ?_, ?_⟩
      · rwa [List.map_nil, List.append_nil]
      · cases hback : recordLines t (read.length + 1) state back with
        | error e => simp [hback, Except.map]
        | ok records => simp [hback, Except.map]
  | cons line front ih =>
      simp only [recordLines, List.cons_append]
      cases hline : t.line (String.ofList line) state with
      | error cause => rfl
      | ok result =>
          obtain ⟨tokens, next⟩ := result
          have hrest := ih (hleads.line hline)
          rw [List.length_append, List.length_singleton] at hrest
          dsimp only
          cases hfront : recordLines t (read.length + 1 + 1) next front with
          | error e =>
              rw [hfront] at hrest
              dsimp only at hrest ⊢
              rw [hrest]
          | ok records =>
              rw [hfront] at hrest
              obtain ⟨behind, hbehind, hback⟩ := hrest
              refine ⟨behind, ?_, ?_⟩
              · simpa using hbehind
              · have hnumber : read.length + 1 + 1 + front.length =
                    read.length + 1 + (line :: front).length := by
                  rw [List.length_cons]
                  omega
                rw [hback, hnumber]
                cases recordLines t (read.length + 1 + (line :: front).length) behind back with
                | error e => rfl
                | ok more => rfl

/-! ## Scopes -/

/-- A list has the elements of another one, each once, in the order in which they appear first. -/
structure ListsFirst (all listed : List String) : Prop where
  nodup : listed.Nodup
  mem_iff : ∀ s, s ∈ listed ↔ s ∈ all
  ascending : listed.Pairwise fun s later => all.idxOf s < all.idxOf later

theorem mem_firstOccurrences {s : String} {seen all : List String} :
    s ∈ firstOccurrences seen all ↔ s ∈ all ∧ s ∉ seen := by
  induction all generalizing seen with
  | nil => simp [firstOccurrences]
  | cons first all ih =>
      by_cases hseen : first ∈ seen
      · simp only [firstOccurrences, hseen, if_true, ih, List.mem_cons]
        constructor
        · rintro ⟨hs, hnew⟩
          exact ⟨Or.inr hs, hnew⟩
        · rintro ⟨rfl | hs, hnew⟩
          · exact absurd hseen hnew
          · exact ⟨hs, hnew⟩
      · simp only [firstOccurrences, hseen, if_false, ih, List.mem_cons, not_or]
        constructor
        · rintro (rfl | ⟨hs, -, hnew⟩)
          · exact ⟨Or.inl rfl, hseen⟩
          · exact ⟨Or.inr hs, hnew⟩
        · rintro ⟨hs, hnew⟩
          by_cases hfirst : s = first
          · exact Or.inl hfirst
          · exact Or.inr ⟨hs.resolve_left hfirst, hfirst, hnew⟩

/-- Behind its first element, a text of a list stands one place later. -/
theorem idxOf_cons_of_ne {first s : String} {all : List String} (h : s ≠ first) :
    (first :: all).idxOf s = all.idxOf s + 1 := by
  rw [List.idxOf_cons, beq_false_of_ne (Ne.symm h)]
  rfl

/-- What has been seen before is passed over; the rest is listed at its first place. -/
theorem pairwise_firstOccurrences (seen all : List String) :
    (firstOccurrences seen all).Pairwise fun s later => all.idxOf s < all.idxOf later := by
  induction all generalizing seen with
  | nil => exact List.Pairwise.nil
  | cons first all ih =>
      -- No element of the rest is the first one: it has been seen when the rest is read.
      have hmoved : ∀ {earlier : List String}, first ∈ earlier →
          (firstOccurrences earlier all).Pairwise
            fun s later => (first :: all).idxOf s < (first :: all).idxOf later := by
        intro earlier hearlier
        refine List.Pairwise.imp_of_mem ?_ (ih earlier)
        intro s later hs hlater hlt
        have hne : ∀ {s}, s ∈ firstOccurrences earlier all → s ≠ first := by
          rintro _ hs rfl
          exact (mem_firstOccurrences.1 hs).2 hearlier
        rw [idxOf_cons_of_ne (hne hs), idxOf_cons_of_ne (hne hlater)]
        exact Nat.succ_lt_succ hlt
      by_cases hseen : first ∈ seen
      · simp only [firstOccurrences, hseen, if_true]
        exact hmoved hseen
      · simp only [firstOccurrences, hseen, if_false, List.pairwise_cons]
        refine ⟨?_, hmoved List.mem_cons_self⟩
        intro later hlater
        have hne : later ≠ first := by
          rintro rfl
          exact (mem_firstOccurrences.1 hlater).2 List.mem_cons_self
        rw [List.idxOf_cons_self, idxOf_cons_of_ne hne]
        exact Nat.succ_pos _

theorem firstOccurrences_listsFirst (all : List String) :
    ListsFirst all (firstOccurrences [] all) where
  nodup := by
    refine List.Pairwise.imp ?_ (pairwise_firstOccurrences [] all)
    rintro s later hlt rfl
    exact Nat.lt_irrefl _ hlt
  mem_iff := by
    intro s
    rw [mem_firstOccurrences]
    simp
  ascending := pairwise_firstOccurrences [] all

namespace LineMachine

variable {read lines : List String} {records : List RecordedLine} {r : RecordedLine} {index : Nat}

/-- A record in a list is that of the line with the same place. -/
theorem RecordsAfter.recordOf (h : t.RecordsAfter read lines records)
    (hr : records[index]? = some r) :
    ∃ line, lines[index]? = some line ∧ t.RecordOf (read ++ lines.take index) line r := by
  have hrecords : index < records.length := (List.getElem?_eq_some_iff.1 hr).1
  have hindex : index < lines.length := h.length_eq ▸ hrecords
  have hsplit : lines = lines.take index ++ lines[index] :: lines.drop (index + 1) := by
    rw [List.getElem_cons_drop, List.take_append_drop]
  have hfront : (lines.take index).length = index :=
    List.length_take_of_le (Nat.le_of_lt hindex)
  obtain ⟨r', hr', hrecord⟩ := h.record _ _ _ hsplit
  rw [hfront, hr] at hr'
  obtain rfl := Option.some.inj hr'
  exact ⟨lines[index], List.getElem?_eq_getElem hindex, hrecord⟩

end LineMachine

/-! ## Texts -/

/-- The number of lines of a text: one more than there are line feeds. -/
def lineCount (text : String) : Nat := text.toList.count '\n' + 1

/-- The last character of a text is a carriage return. -/
def EndsInReturn (text : String) : Prop := text.toList.getLast? = some '\r'

theorem length_fixtureLines (text : String) : (fixtureLines text).length = lineCount text := by
  rw [fixtureLines, List.length_map, length_linesOf, lineCount]

/-- What is recorded of the line with this place in a text: its number, its text, and the scopes of
the tokens that it has in the state to which the lines before it lead. -/
structure LineMachine.RecordsLine (t : LineMachine σ) (text : String) (index : Nat)
    (r : RecordedLine) : Prop where
  number_eq : r.number = index + 1
  text_eq : (fixtureLines text)[index]? = some r.text
  scopes : ∃ state tokens next, t.Leads ((fixtureLines text).take index) state ∧
    t.line r.text state = .ok (tokens, next) ∧ ListsFirst tokens.flatten r.scopes

/-- How a machine records texts: part by part, and line by line. -/
structure LineMachine.Incremental (t : LineMachine σ) : Prop where
  /-- If the text before a line feed fails, the whole text fails in the same way. -/
  fails : ∀ a b e, ¬ EndsInReturn a → recordFixture t a = .error e →
    recordFixture t (a ++ "\n" ++ b) = .error e
  /-- Otherwise the text behind the line feed is recorded from the state on to which the lines
  before it lead, and its lines are numbered on, also the one that fails. -/
  goes_on : ∀ a b records, ¬ EndsInReturn a → recordFixture t a = .ok records →
    ∃ state, t.Leads (fixtureLines a) state ∧
      recordFixture t (a ++ "\n" ++ b) =
        match recordFixture (t.startingAt state) b with
        | .error e => .error (e.later (lineCount a))
        | .ok more => .ok (records ++ more.map (RecordedLine.later (lineCount a)))
  /-- A text that is recorded has one record for each line. -/
  recorded : ∀ text records, recordFixture t text = .ok records →
    records.length = lineCount text ∧
      ∀ index r, records[index]? = some r → t.RecordsLine text index r

/-- The lines of two texts with a line feed between them. -/
theorem linesOf_joined {a b : String} (ha : ¬ EndsInReturn a) :
    linesOf (a ++ "\n" ++ b).toList = linesOf a.toList ++ linesOf b.toList := by
  have htext : (a ++ "\n" ++ b).toList = a.toList ++ '\n' :: b.toList := by simp
  rw [htext, linesOf_append_feed ha]

/-- A machine that starts in another state records the lines of a text from this state on. -/
theorem recordFixture_startingAt {state : σ} {text : String} :
    recordFixture (t.startingAt state) text = recordLines t 1 state (linesOf text.toList) :=
  recordLines_startingAt

/-- Any machine records texts part by part and line by line. -/
theorem recordFixture_incremental (t : LineMachine σ) : t.Incremental where
  fails := by
    intro a b e ha hfails
    have happend := recordLines_append (t := t) (linesOf a.toList) (linesOf b.toList) .start
    rw [recordFixture] at hfails
    rw [List.length_nil, Nat.zero_add, hfails] at happend
    rw [recordFixture, linesOf_joined ha]
    exact happend
  goes_on := by
    intro a b records ha hrecords
    have happend := recordLines_append (t := t) (linesOf a.toList) (linesOf b.toList) .start
    rw [recordFixture] at hrecords
    rw [List.length_nil, Nat.zero_add, hrecords] at happend
    obtain ⟨state, hleads, hback⟩ := happend
    refine ⟨state, hleads, ?_⟩
    -- The lines of the second part are numbered from one on, and moved by those of the first part.
    have hcount : (linesOf a.toList).length = lineCount a := length_linesOf a.toList
    rw [recordFixture, linesOf_joined ha, hback, hcount, recordLines_later,
      recordFixture_startingAt]
    cases recordLines t 1 state (linesOf b.toList) with
    | error e => rfl
    | ok more => rfl
  recorded := by
    intro text records hrecords
    have hlines := recordFixture_eq_ok_iff.1 hrecords
    refine ⟨hlines.length_eq.trans (length_fixtureLines text), ?_⟩
    intro index r hr
    obtain ⟨line, hline, state, tokens, next, hleads, htokens, rfl⟩ := hlines.recordOf hr
    have hindex : index < (fixtureLines text).length := (List.getElem?_eq_some_iff.1 hline).1
    refine ⟨?_, hline, state, tokens, next, hleads, htokens, firstOccurrences_listsFirst _⟩
    rw [List.nil_append, List.length_take_of_le (Nat.le_of_lt hindex)]

end ScopeCheck
