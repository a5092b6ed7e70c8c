import ScopeCheck.Expectation.Evaluate
import ScopeCheck.Report
import ScopeCheck.Run.FileGrammars
import ScopeCheck.Run.Sink

/-!
# Runs

A run checks one fixture against one grammar.

* The grammar is compiled, and the fixture is tokenized.
* The dump is written, also when something goes wrong later.
* The checks are read and evaluated, and the result is written: `PASS`, or the failed checks as an
  error.
-/

namespace ScopeCheck

/-- The files of a run. -/
structure RunInputs where
  grammar : String
  fixture : String
  expectations : String
  deriving DecidableEq, Inhabited, Repr

/-- How a run looks up grammars and lays out what it writes. -/
structure RunSettings where
  /-- Where the grammars are that others mention. -/
  directory : Option String
  suffix : String
  dump : Report.DumpStyle
  /-- How many scopes a failure shows. -/
  sampleSize : Nat
  deriving DecidableEq, Inhabited, Repr

/-- The two places that a run writes to. -/
structure Outputs where
  out : Sink
  err : Sink

/-- The failed checks of a run, or why it was given up, and what it has written. -/
structure RunResult where
  outcome : Except RunError (List FailedCheck)
  outputs : Outputs

namespace Run

variable {ρ : Type}

/-- The records of the fixture. -/
def record (engine : RegexEngine ρ) (files : Files) (settings : RunSettings) (i : RunInputs) :
    Except RunError (List RecordedLine) := do
  let g ← FileGrammars.openAt files i.grammar settings.directory settings.suffix
  let grammar ← g.compile engine
  let content ← (files.read i.fixture).mapError (.unreadable i.fixture)
  (recordFixture (grammar.lineMachine engine) (Text.decodeLossy content)).mapError .fixture

/-- The failed checks. -/
def evaluate (files : Files) (settings : RunSettings) (i : RunInputs)
    (records : List RecordedLine) : Except RunError (List FailedCheck) :=
  (files.readChecks i.expectations).map
    (Evaluation.evaluate ⟨i.fixture, records, settings.sampleSize⟩)

/-- Writes the failed checks as an error, or that there are none. -/
def report (outputs : Outputs) (failed : List FailedCheck) : RunResult :=
  if failed = [] then
    let (out, refusal) := outputs.out.write Report.pass
    match refusal with
    | some reason => ⟨.error (.output reason), { outputs with out := out }⟩
    | none => ⟨.ok [], { outputs with out := out }⟩
  else
    match outputs.out.stuck with
    | some reason => ⟨.error (.output reason), outputs⟩
    | none =>
      let (err, refusal) := outputs.err.write (Report.failures failed)
      match refusal with
      | some reason => ⟨.error (.output reason), { outputs with err := err }⟩
      | none => ⟨.ok failed, { outputs with err := err }⟩

end Run

/-- Checks a fixture. -/
def run {ρ : Type} (engine : RegexEngine ρ) (files : Files) (settings : RunSettings)
    (i : RunInputs) (outputs : Outputs) : RunResult :=
  match Run.record engine files settings i with
  | .error e => ⟨.error e, outputs⟩
  | .ok records =>
    let (out, refusal) := outputs.out.write (Report.dump settings.dump i.fixture records)
    let outputs := { outputs with out := out }
    match refusal with
    | some reason => ⟨.error (.output reason), outputs⟩
    | none =>
      match Run.evaluate files settings i records with
      | .error e => ⟨.error e, outputs⟩
      | .ok failed => Run.report outputs failed

end ScopeCheck
