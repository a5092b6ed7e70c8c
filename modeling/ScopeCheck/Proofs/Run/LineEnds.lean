import ScopeCheck.Proofs.Engine
import ScopeCheck.Proofs.Fixture.Lines
import ScopeCheck.Proofs.Run.Directory
import ScopeCheck.Run.Basic

/-!
# Line ends

A carriage return right before a line feed belongs to the end of the line, so that a fixture in
which every line ends in both characters has the lines of the one in which every line ends in a line
feed.

* `recordFixture_textWithReturns`: any machine records both texts alike, error or not;
* `Run.Sees` says what a run gets out of the files: a grammar, checks and the text of the fixture.
  By `Run.run_eq_of_sees` its result and what it writes depend on the text by way of the records
  alone;
* `Run.Sees.other_fixture`: files that differ at the fixture have the same grammar and checks;
* `lineEnds_do_not_matter` is the result for records and for runs.
-/

namespace ScopeCheck

variable {σ : Type} {t : LineMachine σ} {text : String}

/-- A text with a carriage return put before every line feed. -/
def textWithReturns (text : String) : String := String.ofList (withReturns text.toList)

/-- A machine records a text alike if a carriage return is put before every line feed. -/
theorem recordFixture_textWithReturns (h : HasPlainFeeds text.toList) :
    recordFixture t (textWithReturns text) = recordFixture t text := by
  rw [recordFixture, textWithReturns, String.toList_ofList, linesOf_withReturns h, recordFixture]

namespace Run

variable {ρ : Type} {engine : RegexEngine ρ} {files files' : Files} {settings : RunSettings}
  {i : RunInputs}

/-- The grammar of a run, or why there is none. -/
def grammar (engine : RegexEngine ρ) (files : Files) (settings : RunSettings) (i : RunInputs) :
    Except RunError (Grammar ρ) := do
  let g ← FileGrammars.openAt files i.grammar settings.directory settings.suffix
  g.compile engine

/-- What a run gets out of the files: this grammar and these checks, or why there are none, and this
text of the fixture. -/
structure Sees (engine : RegexEngine ρ) (files : Files) (settings : RunSettings) (i : RunInputs)
    (grammar : Except RunError (Grammar ρ)) (checks : Except RunError (List Check))
    (text : String) : Prop where
  grammar_eq : Run.grammar engine files settings i = grammar
  checks_eq : files.readChecks i.expectations = checks
  fixture : ∃ content, files.read i.fixture = .ok content ∧ Text.decodeLossy content = text

variable {g : Except RunError (Grammar ρ)} {checks : Except RunError (List Check)} {text' : String}

/-- The records of a run are those of its grammar for its text. -/
theorem Sees.record_eq (h : Sees engine files settings i g checks text) :
    record engine files settings i = g.bind fun grammar =>
      (recordFixture (grammar.lineMachine engine) text).mapError .fixture := by
  obtain ⟨content, hread, rfl⟩ := h.fixture
  rw [← h.grammar_eq, record, Run.grammar]
  cases hopen : FileGrammars.openAt files i.grammar settings.directory settings.suffix with
  | error e => rfl
  | ok opened =>
      cases hcompile : opened.compile engine with
      | error e => simp only [bind, Except.bind, hcompile]
      | ok compiled => simp only [bind, Except.bind, hcompile, hread, Except.mapError]

/-- The failures of a run are those of its checks. -/
theorem Sees.evaluate_eq (h : Sees engine files settings i g checks text)
    (records : List RecordedLine) :
    evaluate files settings i records =
      checks.map (Evaluation.evaluate ⟨i.fixture, records, settings.sampleSize⟩) := by
  rw [evaluate, h.checks_eq]

/-- Two runs with the same grammar and checks end alike if their texts are recorded alike. -/
theorem run_eq_of_sees (h : Sees engine files settings i g checks text)
    (h' : Sees engine files' settings i g checks text')
    (hsame : ∀ grammar, g = .ok grammar →
      recordFixture (grammar.lineMachine engine) text' =
        recordFixture (grammar.lineMachine engine) text)
    (outputs : Outputs) :
    run engine files' settings i outputs = run engine files settings i outputs := by
  have hrecord : record engine files' settings i = record engine files settings i := by
    rw [h.record_eq, h'.record_eq]
    cases g with
    | error e => rfl
    | ok grammar => simp only [Except.bind, hsame grammar rfl]
  simp only [run, hrecord, h.evaluate_eq, h'.evaluate_eq]

end Run

/-! ## Files that differ at the fixture -/

variable {files files' : Files}

namespace Run

variable {ρ : Type} {engine : RegexEngine ρ} {settings : RunSettings} {i : RunInputs}
  {g : Except RunError (Grammar ρ)} {checks : Except RunError (List Check)} {text' : String}

/-- Two sets of files are the same at all paths at which a run looks for its grammar and for those
that it mentions. -/
structure SameGrammars (settings : RunSettings) (i : RunInputs) (files files' : Files) : Prop where
  main : files.AgreeAt files' i.grammar
  others : ∀ directory scope, settings.directory = some directory →
    files.AgreeAt files' (Path.join directory (scope ++ settings.suffix))

theorem SameGrammars.grammar_eq (h : SameGrammars settings i files files') :
    grammar engine files' settings i = grammar engine files settings i := by
  have hopen : FileGrammars.openAt files' i.grammar settings.directory settings.suffix =
      (FileGrammars.openAt files i.grammar settings.directory settings.suffix).map
        fun opened => opened.withFiles files' := by
    simp only [FileGrammars.openAt, Files.readGrammar, h.main.readAs_eq]
    cases files.readAs i.grammar Document.ofJson Document.ofYaml? with
    | error e => rfl
    | ok d =>
        dsimp only
        split <;> rfl
  rw [grammar, hopen, grammar]
  cases hopened : FileGrammars.openAt files i.grammar settings.directory settings.suffix with
  | error e => rfl
  | ok opened =>
      refine FileGrammars.compile_withFiles engine ?_
      -- What has been opened remembers the files, the directory and the suffix.
      have hfields : opened.files = files ∧ opened.directory = settings.directory ∧
          opened.suffix = settings.suffix := by
        unfold FileGrammars.openAt at hopened
        split at hopened
        · cases hopened
        · split at hopened
          · cases hopened
          · cases hopened
          · cases hopened
            exact ⟨rfl, rfl, rfl⟩
      obtain ⟨rfl, hdirectory, hsuffix⟩ := hfields
      intro directory hsome scope _ _
      rw [FileGrammars.pathFor, hsuffix]
      exact Or.inl (h.others directory scope (hdirectory ▸ hsome))

/-- Files that differ at the fixture have the same grammar and the same checks. -/
theorem Sees.other_fixture (h : Sees engine files settings i g checks text)
    (hgrammars : SameGrammars settings i files files')
    (hchecks : files.AgreeAt files' i.expectations)
    (hfixture : ∃ content, files'.read i.fixture = .ok content ∧
      Text.decodeLossy content = text') :
    Sees engine files' settings i g checks text' where
  grammar_eq := hgrammars.grammar_eq.trans h.grammar_eq
  checks_eq := by
    rw [← h.checks_eq, Files.readChecks, hchecks.readAs_eq, Files.readChecks]
  fixture := hfixture

end Run

/-- A carriage return before every line feed of a fixture changes neither its records nor anything
else in a run: not the result with the failed checks, nor what is written. -/
theorem lineEnds_do_not_matter (h : HasPlainFeeds text.toList) :
    (∀ (σ : Type) (t : LineMachine σ),
      recordFixture t (textWithReturns text) = recordFixture t text) ∧
    ∀ (ρ : Type) (engine : RegexEngine ρ) (settings : RunSettings) (i : RunInputs)
      (files files' : Files) (g : Except RunError (Grammar ρ))
      (checks : Except RunError (List Check)),
      Run.Sees engine files settings i g checks text →
      Run.Sees engine files' settings i g checks (textWithReturns text) →
      ∀ outputs, run engine files' settings i outputs = run engine files settings i outputs := by
  constructor
  · intro σ t
    exact recordFixture_textWithReturns h
  · intro ρ engine settings i files files' g checks hsees hsees' outputs
    exact Run.run_eq_of_sees hsees hsees' (fun _ _ => recordFixture_textWithReturns h) outputs

/-- The bytes of the ASCII range are read one by one. -/
theorem decodeLossy_of_ascii {bytes : List UInt8} (h : ∀ b ∈ bytes, b < 0x80) :
    Text.decodeLossy bytes = String.ofList (bytes.map fun b => Char.ofNat b.toNat) := by
  have hread : Text.decodeFrom .between bytes = bytes.map fun b => Char.ofNat b.toNat := by
    induction bytes with
    | nil =>
        rw [Text.decodeFrom]
        rfl
    | cons b rest ih =>
        rw [Text.decodeFrom, Text.decodeFrom.start, if_pos (h b List.mem_cons_self),
          ih fun other hother => h other (List.mem_cons_of_mem _ hother), List.map_cons]
  rw [Text.decodeLossy, hread]

namespace Sample

/-- A text with carriage returns inside its lines, at the start of one and at its end. -/
def scatteredReturns : String := "\ra\nb\rb\n\n\r\rc\n\r"

/-- Files with this fixture, a grammar and a check. -/
def filesAround (fixture : String) : Files := .ofList
  [("g.json", .file (Text.encode
      "\x7b\"scopeName\":\"s\",\"patterns\":[\x7b\"match\":\"b\",\"name\":\"n\"\x7d]\x7d")),
    ("f", .file (Text.encode fixture)),
    ("e.json", .file (Text.encode "\x7b\"checks\":[\x7b\"line\":2,\"hasAny\":[\"n\"]\x7d]\x7d"))]

def fixtureInputs : RunInputs := ⟨"g.json", "f", "e.json"⟩

def fixtureSettings : RunSettings := ⟨none, ".json", ⟨25, 4⟩, 25⟩

/-- What a run gets out of these files: the grammar and the check do not depend on the fixture. -/
theorem filesAround_sees {fixture : String}
    (hread : Text.decodeLossy (Text.encode fixture) = fixture) :
    Run.Sees .literal (filesAround fixture) fixtureSettings fixtureInputs
      (Run.grammar .literal (filesAround "") fixtureSettings fixtureInputs)
      ((filesAround "").readChecks fixtureInputs.expectations) fixture := by
  have hempty : Run.Sees .literal (filesAround "") fixtureSettings fixtureInputs
      (Run.grammar .literal (filesAround "") fixtureSettings fixtureInputs)
      ((filesAround "").readChecks fixtureInputs.expectations) "" :=
    ⟨rfl, rfl, [], rfl, decodeLossy_of_ascii fun _ hbyte => absurd hbyte List.not_mem_nil⟩
  refine hempty.other_fixture ⟨?_, ?_⟩ ?_ ⟨Text.encode fixture, ?_, hread⟩
  · simp [Files.AgreeAt, filesAround, Files.ofList, Files.known, fixtureInputs]
  · intro directory scope hdirectory
    cases hdirectory
  · simp [Files.AgreeAt, filesAround, Files.ofList, Files.known, fixtureInputs]
  · simp [filesAround, Files.ofList, Files.read, Files.known, fixtureInputs]

end Sample

open Sample in
theorem sample_lineEnds_do_not_matter :
    HasPlainFeeds scatteredReturns.toList ∧
    run .literal (filesAround (textWithReturns scatteredReturns)) fixtureSettings fixtureInputs
        ⟨.unlimited, .unlimited⟩ =
      run .literal (filesAround scatteredReturns) fixtureSettings fixtureInputs
        ⟨.unlimited, .unlimited⟩ := by
  have hplain : HasPlainFeeds scatteredReturns.toList := by
    unfold HasPlainFeeds
    decide +kernel
  have hread : Text.decodeLossy (Text.encode scatteredReturns) = scatteredReturns := by
    rw [decodeLossy_of_ascii (by decide +kernel)]
    decide +kernel
  have hread' : Text.decodeLossy (Text.encode (textWithReturns scatteredReturns)) =
      textWithReturns scatteredReturns := by
    rw [decodeLossy_of_ascii (by decide +kernel)]
    decide +kernel
  exact ⟨hplain, (lineEnds_do_not_matter hplain).2 _ _ _ _ _ _ _ _ (filesAround_sees hread)
    (filesAround_sees hread') _⟩

end ScopeCheck
