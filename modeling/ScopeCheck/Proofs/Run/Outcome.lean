import ScopeCheck.CommandLine
import ScopeCheck.Proofs.Expectation.Failures
import ScopeCheck.Proofs.Run.Recorded

/-!
# How a run ends

A run first makes the records of the fixture; without them it gives up and writes nothing.  With
them it writes the dump, and only then looks at the expectations.

* `Run.Unrecorded` are the causes for which there are no records, `Run.Recorded` are the records;
  a run has the one or the other, by `Run.record_eq_error_iff` and `Run.record_eq_ok_iff`;
* `run_of_unrecorded`, `run_of_unloaded`, `run_of_passing` and `run_of_failing` are the ways in
  which a run ends whose outputs take everything;
* `run_verdict` says how its result, its two outputs and the exit code of the program agree.
-/

namespace ScopeCheck

variable {ρ : Type} {engine : RegexEngine ρ} {files : Files} {settings : RunSettings}
  {i : RunInputs}

namespace Run

/-- Why a run has no records: the first of its four stages that fails. -/
inductive Unrecorded (engine : RegexEngine ρ) (files : Files) (settings : RunSettings)
    (i : RunInputs) : RunError → Prop
  | opening {e : RunError}
      (hopen : FileGrammars.openAt files i.grammar settings.directory settings.suffix = .error e) :
      Unrecorded engine files settings i e
  | compiling {g : FileGrammars} {e : RunError}
      (hopen : FileGrammars.openAt files i.grammar settings.directory settings.suffix = .ok g)
      (hcompile : g.compile engine = .error e) : Unrecorded engine files settings i e
  | reading {g : FileGrammars} {grammar : Grammar ρ} {cause : ReadError}
      (hopen : FileGrammars.openAt files i.grammar settings.directory settings.suffix = .ok g)
      (hcompile : g.compile engine = .ok grammar)
      (hread : files.read i.fixture = .error cause) :
      Unrecorded engine files settings i (.unreadable i.fixture cause)
  | tokenizing {g : FileGrammars} {grammar : Grammar ρ} {content : List UInt8}
      {cause : FixtureError}
      (hopen : FileGrammars.openAt files i.grammar settings.directory settings.suffix = .ok g)
      (hcompile : g.compile engine = .ok grammar) (hread : files.read i.fixture = .ok content)
      (hline : (grammar.lineMachine engine).FailsAt (fixtureLines (Text.decodeLossy content))
        cause) :
      Unrecorded engine files settings i (.fixture cause)

/-- The records of a run: those of all lines of the fixture. -/
def Recorded (engine : RegexEngine ρ) (files : Files) (settings : RunSettings) (i : RunInputs)
    (records : List RecordedLine) : Prop :=
  ∃ g grammar content,
    FileGrammars.openAt files i.grammar settings.directory settings.suffix = .ok g ∧
    g.compile engine = .ok grammar ∧ files.read i.fixture = .ok content ∧
    (grammar.lineMachine engine).Records (fixtureLines (Text.decodeLossy content)) records

theorem record_spec (engine : RegexEngine ρ) (files : Files) (settings : RunSettings)
    (i : RunInputs) :
    match record engine files settings i with
    | .ok records => Recorded engine files settings i records
    | .error e => Unrecorded engine files settings i e := by
  unfold record
  cases hopen : FileGrammars.openAt files i.grammar settings.directory settings.suffix with
  | error e => exact .opening hopen
  | ok g =>
      cases hcompile : g.compile engine with
      | error e =>
          simp only [bind, Except.bind, hcompile]
          exact .compiling hopen hcompile
      | ok grammar =>
          cases hread : files.read i.fixture with
          | error cause =>
              simp only [bind, Except.bind, hcompile, Except.mapError]
              exact .reading hopen hcompile hread
          | ok content =>
              simp only [bind, Except.bind, hcompile, Except.mapError]
              cases hrecord : recordFixture (grammar.lineMachine engine)
                  (Text.decodeLossy content) with
              | error cause =>
                  exact .tokenizing hopen hcompile hread (recordFixture_eq_error_iff.1 hrecord)
              | ok records =>
                  exact ⟨g, grammar, content, hopen, hcompile, hread,
                    recordFixture_eq_ok_iff.1 hrecord⟩

/-- The records that are made are those of the fixture. -/
theorem record_eq_ok_iff {records : List RecordedLine} :
    record engine files settings i = .ok records ↔ Recorded engine files settings i records := by
  constructor
  · intro h
    have hspec := record_spec engine files settings i
    rwa [h] at hspec
  · rintro ⟨g, grammar, content, hopen, hcompile, hread, hrecords⟩
    have hfixture := recordFixture_eq_ok_iff.2 hrecords
    simp only [record, bind, Except.bind, hopen, hcompile, hread, Except.mapError, hfixture]

/-- There are no records for one cause only. -/
theorem record_eq_error_iff {e : RunError} :
    record engine files settings i = .error e ↔ Unrecorded engine files settings i e := by
  constructor
  · intro h
    have hspec := record_spec engine files settings i
    rwa [h] at hspec
  · intro h
    cases h with
    | opening hopen => simp only [record, bind, Except.bind, hopen]
    | compiling hopen hcompile => simp only [record, bind, Except.bind, hopen, hcompile]
    | reading hopen hcompile hread =>
        simp only [record, bind, Except.bind, hopen, hcompile, hread, Except.mapError]
    | tokenizing hopen hcompile hread hline =>
        have hfixture := recordFixture_eq_error_iff.2 hline
        simp only [record, bind, Except.bind, hopen, hcompile, hread, Except.mapError, hfixture]

/-- The evaluation of a run. -/
def evaluation (settings : RunSettings) (i : RunInputs) (records : List RecordedLine) :
    Evaluation :=
  ⟨i.fixture, records, settings.sampleSize⟩

/-- What the dump of a run is. -/
def dumped (settings : RunSettings) (i : RunInputs) (records : List RecordedLine) : String :=
  Report.dump settings.dump i.fixture records

end Run

/-- A run ends with this result, and with these texts in its two outputs. -/
def RunResult.Shows (r : RunResult) (outcome : Except RunError (List FailedCheck))
    (out err : String) : Prop :=
  r.outcome = outcome ∧ r.outputs.out.written = Text.encode out ∧
    r.outputs.err.written = Text.encode err

namespace Run

variable {records : List RecordedLine} {checks : List Check} {e : RunError}

/-- Without records nothing is written. -/
theorem run_of_unrecorded (h : Unrecorded engine files settings i e) :
    (run engine files settings i ⟨.unlimited, .unlimited⟩).Shows (.error e) "" "" := by
  unfold run
  rw [record_eq_error_iff.2 h]
  exact ⟨rfl, Text.encode_empty.symm, Text.encode_empty.symm⟩

/-- With records the dump is written, and what follows depends on the expectations. -/
theorem run_of_recorded (h : Recorded engine files settings i records) :
    run engine files settings i ⟨.unlimited, .unlimited⟩ =
      match evaluate files settings i records with
      | .error e => ⟨.error e, ⟨⟨Text.encode (dumped settings i records), none, none⟩, .unlimited⟩⟩
      | .ok failed =>
        report ⟨⟨Text.encode (dumped settings i records), none, none⟩, .unlimited⟩ failed := by
  unfold run
  rw [record_eq_ok_iff.2 h]
  rfl

theorem evaluate_of_readChecks (hchecks : files.readChecks i.expectations = .ok checks) :
    evaluate files settings i records = .ok ((evaluation settings i records).evaluate checks) := by
  rw [evaluate, hchecks]
  rfl

/-- Without expectations nothing is written behind the dump. -/
theorem run_of_unloaded (h : Recorded engine files settings i records)
    (hchecks : files.readChecks i.expectations = .error e) :
    (run engine files settings i ⟨.unlimited, .unlimited⟩).Shows (.error e)
      (dumped settings i records) "" := by
  have hevaluate : evaluate files settings i records = .error e := by
    rw [evaluate, hchecks]
    rfl
  rw [run_of_recorded h, hevaluate]
  exact ⟨rfl, rfl, Text.encode_empty.symm⟩

/-- If all checks pass, this is written behind the dump. -/
theorem run_of_passing (h : Recorded engine files settings i records)
    (hchecks : files.readChecks i.expectations = .ok checks)
    (hpass : ∀ c ∈ checks, (evaluation settings i records).Passes c) :
    (run engine files settings i ⟨.unlimited, .unlimited⟩).Shows (.ok [])
      (dumped settings i records ++ Report.pass) "" := by
  rw [run_of_recorded h, evaluate_of_readChecks hchecks, Evaluation.evaluate_eq_nil_iff.2 hpass]
  exact ⟨rfl, (Text.encode_append _ _).symm, Text.encode_empty.symm⟩

/-- If some check fails, the failures are written to the other output. -/
theorem run_of_failing (h : Recorded engine files settings i records)
    (hchecks : files.readChecks i.expectations = .ok checks)
    (hfail : (evaluation settings i records).evaluate checks ≠ []) :
    (run engine files settings i ⟨.unlimited, .unlimited⟩).Shows
      (.ok ((evaluation settings i records).evaluate checks)) (dumped settings i records)
      (Report.failures ((evaluation settings i records).evaluate checks)) := by
  rw [run_of_recorded h, evaluate_of_readChecks hchecks]
  -- Both outputs have been empty but for the dump, so that each ends up with its own text.
  dsimp only [report]
  rw [if_neg hfail]
  exact ⟨rfl, rfl, rfl⟩

/-- How the result and the outputs of a run agree, and the exit code of the program that makes
it. -/
structure Verdict (engine : RegexEngine ρ) (files : Files) (settings : RunSettings) (i : RunInputs)
    (r : RunResult) : Prop where
  /-- Without records the cause is the result, and nothing is written. -/
  unrecorded : ∀ e, Unrecorded engine files settings i e → r.Shows (.error e) "" ""
  /-- Otherwise there are records. -/
  recorded : (¬ ∃ e, Unrecorded engine files settings i e) →
    ∃ records, Recorded engine files settings i records
  /-- The dump of all records comes first, whatever the expectations are. -/
  dump_first : ∀ records, Recorded engine files settings i records →
    Text.encode (dumped settings i records) <+: r.outputs.out.written
  /-- The run passes if and only if there are records and expectations and all checks pass. -/
  passes_iff : r.outcome = .ok [] ↔ ∃ records checks,
    Recorded engine files settings i records ∧ files.readChecks i.expectations = .ok checks ∧
      ∀ c ∈ checks, (evaluation settings i records).Passes c
  /-- Then this is written behind the dump. -/
  passed : r.outcome = .ok [] → ∃ records, Recorded engine files settings i records ∧
    r.Shows (.ok []) (dumped settings i records ++ Report.pass) ""
  /-- If some check fails, the failures are the result and are written to the other output. -/
  failed : ∀ records checks, Recorded engine files settings i records →
    files.readChecks i.expectations = .ok checks →
    (∃ c ∈ checks, ¬ (evaluation settings i records).Passes c) →
    ∃ failed, failed ≠ [] ∧ (evaluation settings i records).ListsFailures checks failed ∧
      r.Shows (.ok failed) (dumped settings i records) (Report.failures failed)
  /-- Without expectations the cause is the result, and the dump is all that is written. -/
  unloaded : ∀ records e, Recorded engine files settings i records →
    files.readChecks i.expectations = .error e →
    r.Shows (.error e) (dumped settings i records) ""
  /-- The program ends with zero if and only if `PASS` is written behind the dump. -/
  exitCode_iff : ∀ programDirectory grammars config c,
    CommandLine.configure files grammars config = .ok c →
    c.runSettings (some (c.grammarDirectory programDirectory)) = settings →
    ((CommandLine.check engine files programDirectory i grammars config).exitCode = 0 ↔
      ∃ records, Recorded engine files settings i records ∧
        r.outputs.out.written = Text.encode (dumped settings i records ++ Report.pass))

end Run

/-- The program ends with zero if and only if the run passes. -/
theorem CommandLine.exitCode_check_iff {programDirectory : String} {grammars config : Option String}
    {c : Config} (hconfig : CommandLine.configure files grammars config = .ok c) :
    (CommandLine.check engine files programDirectory i grammars config).exitCode = 0 ↔
      (run engine files (c.runSettings (some (c.grammarDirectory programDirectory))) i
        ⟨.unlimited, .unlimited⟩).outcome = .ok [] := by
  unfold CommandLine.check
  rw [hconfig]
  dsimp only
  split
  · rename_i hout
    simp [hout]
  · rename_i hout
    simp [hout]
  · rename_i hne hout
    simp only [hout, Nat.one_ne_zero, false_iff]
    intro hpass
    exact hne (Except.ok.inj hpass)

namespace Run

/-- A run that has records ends in one of three ways. -/
theorem Recorded.cases {records : List RecordedLine}
    (h : Recorded engine files settings i records) :
    (∃ e, files.readChecks i.expectations = .error e ∧
      (run engine files settings i ⟨.unlimited, .unlimited⟩).Shows (.error e)
        (dumped settings i records) "") ∨
    (∃ checks, files.readChecks i.expectations = .ok checks ∧
      (∀ c ∈ checks, (evaluation settings i records).Passes c) ∧
      (run engine files settings i ⟨.unlimited, .unlimited⟩).Shows (.ok [])
        (dumped settings i records ++ Report.pass) "") ∨
    ∃ checks, files.readChecks i.expectations = .ok checks ∧
      (evaluation settings i records).evaluate checks ≠ [] ∧
      (run engine files settings i ⟨.unlimited, .unlimited⟩).Shows
        (.ok ((evaluation settings i records).evaluate checks)) (dumped settings i records)
        (Report.failures ((evaluation settings i records).evaluate checks)) := by
  cases hchecks : files.readChecks i.expectations with
  | error e => exact Or.inl ⟨e, rfl, run_of_unloaded h hchecks⟩
  | ok checks =>
      by_cases hfailed : (evaluation settings i records).evaluate checks = []
      · have hpass := Evaluation.evaluate_eq_nil_iff.1 hfailed
        exact Or.inr (Or.inl ⟨checks, rfl, hpass, run_of_passing h hchecks hpass⟩)
      · exact Or.inr (Or.inr ⟨checks, rfl, hfailed, run_of_failing h hchecks hfailed⟩)

/-- What a run has written ends with `PASS` only if it passes. -/
theorem encode_dumped_ne (text : String) :
    Text.encode text ≠ Text.encode (text ++ Report.pass) := by
  rw [Text.encode_append]
  intro h
  have hpass : Text.encode Report.pass = [] := List.self_eq_append_right.1 h
  exact absurd hpass (by decide)

/-- A run that passes has records, and `PASS` is what it writes last. -/
theorem recorded_of_pass
    (h : (run engine files settings i ⟨.unlimited, .unlimited⟩).outcome = .ok []) :
    ∃ records checks, Recorded engine files settings i records ∧
      files.readChecks i.expectations = .ok checks ∧
      (∀ c ∈ checks, (evaluation settings i records).Passes c) ∧
      (run engine files settings i ⟨.unlimited, .unlimited⟩).Shows (.ok [])
        (dumped settings i records ++ Report.pass) "" := by
  have hspec := record_spec engine files settings i
  split at hspec
  · rename_i records _
    rcases hspec.cases with ⟨e, _, hout, _⟩ | ⟨checks, hchecks, hpass, hshows⟩ |
      ⟨checks, _, hfailed, hout, _⟩
    · rw [hout] at h
      cases h
    · exact ⟨records, checks, hspec, hchecks, hpass, hshows⟩
    · rw [hout] at h
      exact absurd (Except.ok.inj h) hfailed
  · rw [(run_of_unrecorded hspec).1] at h
    cases h

end Run

end ScopeCheck
