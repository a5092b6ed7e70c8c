import Mathlib.Data.List.Induction
import ScopeCheck.Fixture

/-!
# What is recorded of a fixture

A fixture is tokenized line by line.  Either every line gets a record, or the first line that cannot
be tokenized is the error.

* `LineMachine.Leads` are the lines that lead from the start of a text to a state; they lead to one
  state only;
* `LineMachine.Records` says what the records of lines are: one for each, made in the state to which
  the lines before lead;
* `LineMachine.FailsAt` says at which line there is no record, and why;
* `recordFixture_eq_ok_iff` and `recordFixture_eq_error_iff`: these are the results of recording.
-/

namespace ScopeCheck

/-- The lines of a fixture. -/
def fixtureLines (text : String) : List String := (linesOf text.toList).map String.ofList

namespace LineMachine

variable {σ : Type}

/-- These lines, in their order, lead from the start of a text to a state. -/
inductive Leads (t : LineMachine σ) : List String → σ → Prop
  | start : Leads t [] t.initial
  | line {read : List String} {state next : σ} {line : String} {tokens : List (List String)}
      (hleads : Leads t read state) (hline : t.line line state = .ok (tokens, next)) :
      Leads t (read ++ [line]) next

/-- What is recorded of a line that is read after other ones. -/
def RecordOf (t : LineMachine σ) (read : List String) (line : String) (r : RecordedLine) : Prop :=
  ∃ state tokens next, t.Leads read state ∧ t.line line state = .ok (tokens, next) ∧
    r = ⟨read.length + 1, line, firstOccurrences [] tokens.flatten⟩

/-- The records of lines that are read after other ones: every line has one, in their order. -/
structure RecordsAfter (t : LineMachine σ) (read lines : List String)
    (records : List RecordedLine) : Prop where
  length_eq : records.length = lines.length
  record : ∀ front line back, lines = front ++ line :: back →
    ∃ r, records[front.length]? = some r ∧ t.RecordOf (read ++ front) line r

/-- The records of all lines of a text. -/
def Records (t : LineMachine σ) (lines : List String) (records : List RecordedLine) : Prop :=
  t.RecordsAfter [] lines records

/-- A line that is read after other ones cannot be tokenized. -/
def FailsAfter (t : LineMachine σ) (read lines : List String) (e : FixtureError) : Prop :=
  ∃ front line back state cause, lines = front ++ line :: back ∧ t.Leads (read ++ front) state ∧
    t.line line state = .error cause ∧ e = ⟨(read ++ front).length + 1, cause⟩

/-- A line of a text cannot be tokenized. -/
def FailsAt (t : LineMachine σ) (lines : List String) (e : FixtureError) : Prop :=
  t.FailsAfter [] lines e

variable {t : LineMachine σ} {read : List String} {state : σ}

/-- The last of some lines has been tokenized in the state to which the others lead. -/
theorem Leads.last {line : String} {next : σ} (h : t.Leads (read ++ [line]) next) :
    ∃ state tokens, t.Leads read state ∧ t.line line state = .ok (tokens, next) := by
  generalize hall : read ++ [line] = all at h
  cases h with
  | start => exact absurd hall (List.append_ne_nil_of_right_ne_nil _ (List.cons_ne_nil _ _))
  | @line read' state next line' tokens hleads hline =>
      obtain ⟨rfl, hlast⟩ := List.append_inj' hall rfl
      obtain rfl := List.singleton_inj.1 hlast
      exact ⟨state, tokens, hleads, hline⟩

/-- Lines lead to one state only. -/
theorem Leads.unique {state' : σ} (h : t.Leads read state) (h' : t.Leads read state') :
    state = state' := by
  induction h generalizing state' with
  | start =>
      generalize hread : ([] : List String) = read at h'
      cases h' with
      | start => rfl
      | line =>
          exact absurd hread.symm (List.append_ne_nil_of_right_ne_nil _ (List.cons_ne_nil _ _))
  | line hleads hline ih =>
      obtain ⟨before, tokens, hbefore, hline'⟩ := h'.last
      obtain rfl := ih hbefore
      rw [hline] at hline'
      exact (Prod.mk.inj (Except.ok.inj hline')).2

/-- The first ones of some lines lead to a state as well. -/
theorem Leads.front {more : List String} (h : t.Leads (read ++ more) state) :
    ∃ before, t.Leads read before := by
  induction more using List.reverseRecOn generalizing state with
  | nil => exact ⟨state, List.append_nil read ▸ h⟩
  | append_singleton more line ih =>
      rw [← List.append_assoc] at h
      obtain ⟨before, _, hbefore, _⟩ := h.last
      exact ih hbefore

theorem RecordOf.unique {line : String} {r r' : RecordedLine} (h : t.RecordOf read line r)
    (h' : t.RecordOf read line r') : r = r' := by
  obtain ⟨state, tokens, next, hleads, hline, rfl⟩ := h
  obtain ⟨state', tokens', next', hleads', hline', rfl⟩ := h'
  obtain rfl := hleads.unique hleads'
  rw [hline] at hline'
  rw [(Prod.mk.inj (Except.ok.inj hline')).1]

variable {lines : List String} {records : List RecordedLine} {e : FixtureError}

/-- Lines have one list of records. -/
theorem RecordsAfter.unique {records' : List RecordedLine} (h : t.RecordsAfter read lines records)
    (h' : t.RecordsAfter read lines records') : records = records' := by
  apply List.ext_getElem?
  intro i
  by_cases hi : i < lines.length
  · have hsplit : lines = lines.take i ++ lines[i] :: lines.drop (i + 1) := by
      rw [List.getElem_cons_drop, List.take_append_drop]
    have hfront : (lines.take i).length = i := List.length_take_of_le (Nat.le_of_lt hi)
    obtain ⟨r, hr, hrecord⟩ := h.record _ _ _ hsplit
    obtain ⟨r', hr', hrecord'⟩ := h'.record _ _ _ hsplit
    rw [hfront] at hr hr'
    rw [hr, hr', hrecord.unique hrecord']
  · have hlength : lines.length ≤ i := Nat.le_of_not_lt hi
    rw [List.getElem?_eq_none (h.length_eq ▸ hlength),
      List.getElem?_eq_none (h'.length_eq ▸ hlength)]

/-- A line with a record can be tokenized. -/
theorem RecordsAfter.not_failsAfter (h : t.RecordsAfter read lines records) :
    ¬ t.FailsAfter read lines e := by
  rintro ⟨front, line, back, state, cause, hsplit, hleads, hline, _⟩
  obtain ⟨r, _, state', tokens, next, hleads', hline', _⟩ := h.record front line back hsplit
  obtain rfl := hleads.unique hleads'
  rw [hline] at hline'
  cases hline'

/-- A line that cannot be tokenized leads nowhere. -/
theorem Leads.not_behind {front more : List String} {line : String} {after : σ}
    {cause : GrammarError} (h : t.Leads (read ++ front) state)
    (hline : t.line line state = .error cause) :
    ¬ t.Leads (read ++ (front ++ line :: more)) after := by
  intro hafter
  rw [← List.singleton_append, ← List.append_assoc, ← List.append_assoc] at hafter
  obtain ⟨next, hnext⟩ := hafter.front
  obtain ⟨before, tokens, hbefore, hok⟩ := hnext.last
  rw [h.unique hbefore, hok] at hline
  cases hline

/-- Only one line fails: those behind it are not reached. -/
theorem FailsAfter.unique {e' : FixtureError} (h : t.FailsAfter read lines e)
    (h' : t.FailsAfter read lines e') : e = e' := by
  obtain ⟨front, line, back, state, cause, rfl, hleads, hline, rfl⟩ := h
  obtain ⟨front', line', back', state', cause', hsplit, hleads', hline', rfl⟩ := h'
  have hfront : front = front' := by
    -- If one of the lines were behind the other one, the lines up to there would lead to a state.
    rcases List.append_eq_append_iff.1 hsplit with ⟨more, rfl, htail⟩ | ⟨more, rfl, htail⟩
    · cases more with
      | nil => rw [List.append_nil]
      | cons first more =>
          obtain ⟨rfl, -⟩ := List.cons.inj htail
          exact absurd hleads' (hleads.not_behind hline)
    · cases more with
      | nil => rw [List.append_nil]
      | cons first more =>
          obtain ⟨rfl, -⟩ := List.cons.inj htail
          exact absurd hleads (hleads'.not_behind hline')
  subst hfront
  obtain ⟨rfl, -⟩ := List.cons.inj (List.append_cancel_left hsplit)
  rw [hleads.unique hleads', hline'] at hline
  rw [Except.error.inj hline]

theorem recordsAfter_nil : t.RecordsAfter read [] [] := by
  refine ⟨rfl, ?_⟩
  intro front line back hsplit
  exact absurd hsplit.symm (List.append_ne_nil_of_right_ne_nil _ (List.cons_ne_nil _ _))

theorem RecordsAfter.cons {line : String} {r : RecordedLine} (hrecord : t.RecordOf read line r)
    (hrest : t.RecordsAfter (read ++ [line]) lines records) :
    t.RecordsAfter read (line :: lines) (r :: records) := by
  refine ⟨congrArg Nat.succ hrest.length_eq, ?_⟩
  intro front line' back hsplit
  cases front with
  | nil =>
      obtain ⟨rfl, -⟩ := List.cons.inj hsplit
      refine ⟨r, rfl, ?_⟩
      rwa [List.append_nil]
  | cons first front =>
      obtain ⟨rfl, hlines⟩ := List.cons.inj hsplit
      obtain ⟨r', hr', hrecord'⟩ := hrest.record front line' back hlines
      refine ⟨r', hr', ?_⟩
      rwa [List.append_assoc, List.singleton_append] at hrecord'

theorem FailsAfter.cons {line : String} (h : t.FailsAfter (read ++ [line]) lines e) :
    t.FailsAfter read (line :: lines) e := by
  obtain ⟨front, line', back, state, cause, rfl, hleads, hline, rfl⟩ := h
  rw [List.append_assoc, List.singleton_append] at hleads ⊢
  exact ⟨line :: front, line', back, state, cause, rfl, hleads, hline, rfl⟩

/-- Recording goes on through all lines, or up to the first one that cannot be tokenized.  The
induction is on the lines that are left. -/
theorem recordLines_spec {rest : List (List Char)} (hleads : t.Leads read state) :
    match recordLines t (read.length + 1) state rest with
    | .ok records => t.RecordsAfter read (rest.map String.ofList) records
    | .error e => t.FailsAfter read (rest.map String.ofList) e := by
  induction rest generalizing read state with
  | nil => exact recordsAfter_nil
  | cons line rest ih =>
      rw [recordLines, List.map_cons]
      cases hline : t.line (String.ofList line) state with
      | error cause =>
          refine ⟨[], _, _, state, cause, rfl, ?_, hline, ?_⟩
          · rwa [List.append_nil]
          · rw [List.append_nil]
      | ok result =>
          obtain ⟨tokens, next⟩ := result
          have hrest := ih (hleads.line hline)
          -- The number of the next line is that of the lines read, plus one.
          rw [List.length_append, List.length_singleton] at hrest
          dsimp only
          cases hrecords : recordLines t (read.length + 1 + 1) next rest with
          | error e =>
              rw [hrecords] at hrest
              exact hrest.cons
          | ok records =>
              rw [hrecords] at hrest
              exact hrest.cons ⟨state, tokens, next, hleads, hline, rfl⟩

end LineMachine

variable {σ : Type} {t : LineMachine σ} {text : String}

theorem recordFixture_spec (t : LineMachine σ) (text : String) :
    match recordFixture t text with
    | .ok records => t.Records (fixtureLines text) records
    | .error e => t.FailsAt (fixtureLines text) e :=
  LineMachine.recordLines_spec .start

/-- A fixture is recorded if and only if each of its lines has a record. -/
theorem recordFixture_eq_ok_iff {records : List RecordedLine} :
    recordFixture t text = .ok records ↔ t.Records (fixtureLines text) records := by
  have hspec := recordFixture_spec t text
  constructor
  · intro h
    rwa [h] at hspec
  · intro hrecords
    cases h : recordFixture t text with
    | error e =>
        rw [h] at hspec
        exact absurd hspec hrecords.not_failsAfter
    | ok records' =>
        rw [h] at hspec
        rw [hspec.unique hrecords]

/-- Recording fails if and only if some line cannot be tokenized in the state to which the lines
before it lead. -/
theorem recordFixture_eq_error_iff {e : FixtureError} :
    recordFixture t text = .error e ↔ t.FailsAt (fixtureLines text) e := by
  have hspec := recordFixture_spec t text
  constructor
  · intro h
    rwa [h] at hspec
  · intro hfails
    cases h : recordFixture t text with
    | error e' =>
        rw [h] at hspec
        rw [hspec.unique hfails]
    | ok records =>
        rw [h] at hspec
        exact absurd hfails hspec.not_failsAfter

end ScopeCheck
