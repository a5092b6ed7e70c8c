import ScopeCheck.Proofs.Run.Outcome

/-!
# Outputs that take no more

An output may take so many bytes and refuse all others, or take all bytes and not pass them on.  A
run then writes the beginning of what it writes otherwise, and the first refusal is its result.

* `Sink.writeAll` writes a text in pieces.  By `Sink.writeAll_eq_write` the pieces do not matter,
  wherever among them the limit is;
* a `Script` is what is to be written to the two outputs, in pieces.  By `Run.run_eq_perform` a run
  performs a script that depends on its files only, and by `Script.perform_eq_of_sameTexts` it may
  be cut into other pieces;
* `RunResult.CutShort` compares a run whose outputs have limits with the one whose outputs have
  none, and `RunResult.HeldBack` does so for an output that is not passed on;
* `run_refused_outputs` is the result for all limits and all ways to cut the texts.
-/

namespace ScopeCheck

/-! ## Writing in pieces -/

namespace Sink

variable {s : Sink} {bytes : List UInt8} {text reason : String} {room : Nat}

/-- A sink that takes so many bytes and refuses all others. -/
def upTo (room : Nat) (reason : String) : Sink := ⟨[], some (room, reason), none⟩

/-- A sink that takes all bytes and does not pass them on. -/
def stuckFor (reason : String) : Sink := ⟨[], none, some reason⟩

/-- The same sink with other bytes written. -/
def holding (s : Sink) (bytes : List UInt8) : Sink := { s with written := bytes }

/-- There is room for bytes behind those that have been written. -/
def HasRoomFor (s : Sink) (bytes : List UInt8) : Prop :=
  ∀ room reason, s.limit = some (room, reason) → (s.written ++ bytes).length ≤ room

/-- There is room for bytes, or they go beyond the limit. -/
theorem hasRoomFor_or (s : Sink) (bytes : List UInt8) :
    s.HasRoomFor bytes ∨
      ∃ room reason, s.limit = some (room, reason) ∧ room < (s.written ++ bytes).length := by
  by_cases hroom : s.HasRoomFor bytes
  · exact Or.inl hroom
  · obtain ⟨room, hroom⟩ := not_forall.1 hroom
    obtain ⟨reason, hroom⟩ := not_forall.1 hroom
    obtain ⟨hlimit, hbeyond⟩ := Classical.not_imp.1 hroom
    exact Or.inr ⟨room, reason, hlimit, Nat.lt_of_not_le hbeyond⟩

/-- A text for which there is room is written. -/
theorem write_of_hasRoomFor (h : s.HasRoomFor (Text.encode text)) :
    s.write text = (s.holding (s.written ++ Text.encode text), none) := by
  cases hlimit : s.limit with
  | none => simp only [write, add, refusal?, hlimit, holding]
  | some limit =>
      have hroom := h limit.1 limit.2 hlimit
      simp only [write, add, refusal?, hlimit, holding, List.take_of_length_le hroom,
        if_neg (Nat.not_lt.2 hroom)]

/-- A text that goes beyond the limit is cut off there. -/
theorem write_of_limit_lt (hlimit : s.limit = some (room, reason))
    (h : room < (s.written ++ Text.encode text).length) :
    s.write text = (s.holding ((s.written ++ Text.encode text).take room), some reason) := by
  simp only [write, add, refusal?, hlimit, holding, if_pos h]

/-- Two texts are written like the second one behind the first one. -/
theorem write_append (s : Sink) (a b : String) :
    s.write (a ++ b) = (s.holding (s.written ++ Text.encode a)).write b := by
  simp only [write, add, refusal?, holding, Text.encode_append, List.append_assoc]

/-- Writes texts one after another; nothing is written behind a text that is refused. -/
def writeAll (s : Sink) : List String → Sink × Option String
  | [] => (s, none)
  | text :: rest =>
    match s.write text with
    | (after, some reason) => (after, some reason)
    | (after, none) => after.writeAll rest

/-- It does not matter into which pieces a text is cut.  The induction is on the pieces: either
there is room for the first one, or the limit lies in it and the others change nothing. -/
theorem writeAll_eq_write (h : s.HasRoomFor []) (pieces : List String) :
    s.writeAll pieces = s.write (String.join pieces) := by
  induction pieces generalizing s with
  | nil =>
      have hempty : s.HasRoomFor (Text.encode (String.join [])) := h
      rw [write_of_hasRoomFor hempty]
      show (s, none) = (s.holding (s.written ++ []), none)
      rw [List.append_nil]
      rfl
  | cons first rest ih =>
      rw [String.join_cons]
      rcases s.hasRoomFor_or (Text.encode first) with hroom | ⟨room, reason, hlimit, hbeyond⟩
      · have hafter : (s.holding (s.written ++ Text.encode first)).HasRoomFor [] := by
          intro room reason hlimit
          rw [List.append_nil]
          exact hroom room reason hlimit
        rw [writeAll, write_of_hasRoomFor hroom, write_append]
        exact ih hafter
      · have hwhole : room < (s.written ++ Text.encode (first ++ String.join rest)).length := by
          rw [Text.encode_append, ← List.append_assoc, List.length_append]
          omega
        rw [writeAll, write_of_limit_lt hlimit hbeyond, write_of_limit_lt hlimit hwhole,
          Text.encode_append, ← List.append_assoc,
          List.take_append_of_le_length (Nat.le_of_lt hbeyond)]

/-- A sink without a limit takes a text. -/
theorem unlimited_write (text : String) :
    unlimited.write text = (unlimited.holding (Text.encode text), none) := by
  simp only [write, add, refusal?, holding, unlimited, List.nil_append]

/-- A sink with a limit takes the beginning of a text, and refuses it if it is longer. -/
theorem upTo_write (room : Nat) (reason text : String) :
    (upTo room reason).write text =
      ((upTo room reason).holding ((Text.encode text).take room),
        if room < (Text.encode text).length then some reason else none) := by
  simp only [write, add, refusal?, holding, upTo, List.nil_append]
  rfl

/-- A sink that does not pass anything on takes a text all the same. -/
theorem stuckFor_write (reason text : String) :
    (stuckFor reason).write text = ((stuckFor reason).holding (Text.encode text), none) := by
  simp only [write, add, refusal?, holding, stuckFor, List.nil_append]

theorem unlimited_hasRoomFor (bytes : List UInt8) : unlimited.HasRoomFor bytes := by
  intro room reason hlimit
  cases hlimit

theorem upTo_hasRoomFor (room : Nat) (reason : String) : (upTo room reason).HasRoomFor [] := by
  intro room' reason' hlimit
  exact Nat.zero_le room'

theorem stuckFor_hasRoomFor (reason : String) (bytes : List UInt8) :
    (stuckFor reason).HasRoomFor bytes := by
  intro room reason' hlimit
  cases hlimit

end Sink

/-! ## Scripts -/

/-- What is to be written to the two outputs, in pieces, and the result if nothing is refused.  The
first output is passed on before anything is written to the second one. -/
structure Script where
  out : List String
  err : Option (List String)
  result : Except RunError (List FailedCheck)

namespace Script

variable {s s' : Script} {outputs : Outputs}

/-- Writes everything up to the first refusal, which is the result then. -/
def perform (s : Script) (outputs : Outputs) : RunResult :=
  match outputs.out.writeAll s.out with
  | (out, some reason) => ⟨.error (.output reason), { outputs with out := out }⟩
  | (out, none) =>
    match s.err with
    | none => ⟨s.result, { outputs with out := out }⟩
    | some pieces =>
      match out.stuck with
      | some reason => ⟨.error (.output reason), { outputs with out := out }⟩
      | none =>
        match outputs.err.writeAll pieces with
        | (err, some reason) => ⟨.error (.output reason), ⟨out, err⟩⟩
        | (err, none) => ⟨s.result, ⟨out, err⟩⟩

/-- The same texts and the same result, whatever the pieces are. -/
structure SameTexts (s s' : Script) : Prop where
  out : String.join s.out = String.join s'.out
  err : s.err.map String.join = s'.err.map String.join
  result : s.result = s'.result

/-- What has been written is within the limits. -/
def Fits (outputs : Outputs) : Prop := outputs.out.HasRoomFor [] ∧ outputs.err.HasRoomFor []

/-- The pieces of a script do not matter. -/
theorem perform_eq_of_sameTexts (h : s.SameTexts s') (hfits : Fits outputs) :
    s.perform outputs = s'.perform outputs := by
  have hout : outputs.out.writeAll s.out = outputs.out.writeAll s'.out := by
    rw [Sink.writeAll_eq_write hfits.1, Sink.writeAll_eq_write hfits.1, h.out]
  have herr : ∀ pieces pieces', s.err = some pieces → s'.err = some pieces' →
      outputs.err.writeAll pieces = outputs.err.writeAll pieces' := by
    intro pieces pieces' hpieces hpieces'
    have hjoin := h.err
    rw [hpieces, hpieces'] at hjoin
    rw [Sink.writeAll_eq_write hfits.2, Sink.writeAll_eq_write hfits.2]
    exact congrArg outputs.err.write (Option.some.inj hjoin)
  have hjoin := h.err
  unfold perform
  rw [hout, h.result]
  cases hpieces : s.err with
  | none =>
      cases hpieces' : s'.err with
      | none => rfl
      | some pieces' =>
          rw [hpieces, hpieces'] at hjoin
          cases hjoin
  | some pieces =>
      cases hpieces' : s'.err with
      | none =>
          rw [hpieces, hpieces'] at hjoin
          cases hjoin
      | some pieces' => simp only [herr pieces pieces' hpieces hpieces']

/-- The texts of a script as bytes. -/
def outBytes (s : Script) : List UInt8 := Text.encode (String.join s.out)

def errBytes (s : Script) : List UInt8 := Text.encode (String.join (s.err.getD []))

theorem errBytes_of_none (h : s.err = none) : s.errBytes = [] := by
  rw [errBytes, h]
  rfl

theorem encode_join_out (s : Script) : Text.encode (String.join s.out) = s.outBytes := rfl

/-- Outputs that take everything get all texts. -/
theorem perform_unlimited (s : Script) :
    s.perform ⟨.unlimited, .unlimited⟩ =
      ⟨s.result, ⟨Sink.unlimited.holding s.outBytes, Sink.unlimited.holding s.errBytes⟩⟩ := by
  unfold perform
  rw [Sink.writeAll_eq_write (Sink.unlimited_hasRoomFor []), Sink.unlimited_write]
  cases herr : s.err with
  | none => simp only [outBytes, errBytes, herr]; rfl
  | some pieces =>
      have hwritten := Sink.writeAll_eq_write (Sink.unlimited_hasRoomFor []) pieces
      rw [Sink.unlimited_write] at hwritten
      have hstuck : (Sink.unlimited.holding (Text.encode (String.join s.out))).stuck = none := rfl
      simp only [hstuck, hwritten, outBytes, errBytes, herr, Option.getD_some]

/-- A first output that is too small refuses the rest, and nothing more is written. -/
theorem perform_of_out_lt {a b : Nat} {outReason errReason : String}
    (h : a < s.outBytes.length) :
    s.perform ⟨.upTo a outReason, .upTo b errReason⟩ =
      ⟨.error (.output outReason),
        ⟨(Sink.upTo a outReason).holding (s.outBytes.take a), .upTo b errReason⟩⟩ := by
  have hwritten := Sink.writeAll_eq_write (Sink.upTo_hasRoomFor a outReason) s.out
  rw [Sink.upTo_write, encode_join_out, if_pos h] at hwritten
  simp only [perform, hwritten]

/-- A first output that is large enough takes everything, and the second one takes what it can. -/
theorem perform_of_out_le {a b : Nat} {outReason errReason : String}
    (h : s.outBytes.length ≤ a) :
    s.perform ⟨.upTo a outReason, .upTo b errReason⟩ =
      ⟨if b < s.errBytes.length then .error (.output errReason) else s.result,
        ⟨(Sink.upTo a outReason).holding s.outBytes,
          (Sink.upTo b errReason).holding (s.errBytes.take b)⟩⟩ := by
  have hwritten := Sink.writeAll_eq_write (Sink.upTo_hasRoomFor a outReason) s.out
  rw [Sink.upTo_write, encode_join_out, if_neg (Nat.not_lt.2 h),
    List.take_of_length_le h] at hwritten
  unfold perform
  rw [hwritten]
  cases herr : s.err with
  | none =>
      rw [errBytes_of_none herr, List.take_nil]
      rfl
  | some pieces =>
      have hbytes : Text.encode (String.join pieces) = s.errBytes := by
        rw [errBytes, herr, Option.getD_some]
      have hstuck : ((Sink.upTo a outReason).holding s.outBytes).stuck = none := rfl
      have hpieces := Sink.writeAll_eq_write (Sink.upTo_hasRoomFor b errReason) pieces
      rw [Sink.upTo_write, hbytes] at hpieces
      by_cases hb : b < s.errBytes.length
      · rw [if_pos hb] at hpieces ⊢
        simp only [hstuck, hpieces]
      · rw [if_neg hb] at hpieces ⊢
        simp only [hstuck, hpieces]

/-- A first output that is not passed on gets all texts.  The result is why, if there is something
for the second output. -/
theorem perform_stuck (s : Script) (reason : String) :
    s.perform ⟨.stuckFor reason, .unlimited⟩ =
      match s.err with
      | none => ⟨s.result, ⟨(Sink.stuckFor reason).holding s.outBytes, .unlimited⟩⟩
      | some _ =>
        ⟨.error (.output reason), ⟨(Sink.stuckFor reason).holding s.outBytes, .unlimited⟩⟩ := by
  have hwritten := Sink.writeAll_eq_write (Sink.stuckFor_hasRoomFor reason []) s.out
  rw [Sink.stuckFor_write] at hwritten
  have hstuck : ((Sink.stuckFor reason).holding s.outBytes).stuck = some reason := rfl
  unfold perform
  rw [hwritten]
  cases s.err with
  | none => rfl
  | some pieces => exact rfl

end Script

/-! ## The script of a run -/

namespace Script

variable {s : Script} {outputs : Outputs}

/-- Nothing is written, and this is the result. -/
def givenUp (e : RunError) : Script := ⟨[], none, .error e⟩

/-- What is written of failed checks. -/
def ofFailed (failed : List FailedCheck) : Script :=
  if failed = [] then ⟨[Report.pass], none, .ok []⟩
  else ⟨[], some [Report.failures failed], .ok failed⟩

/-- The script that is performed behind a text for the first output. -/
def behind (s : Script) (text : String) : Script := { s with out := text :: s.out }

/-- A script behind a text is performed if the text is not refused. -/
theorem perform_behind (s : Script) (text : String) (outputs : Outputs) :
    (s.behind text).perform outputs =
      match outputs.out.write text with
      | (out, some reason) => ⟨.error (.output reason), { outputs with out := out }⟩
      | (out, none) => s.perform { outputs with out := out } := by
  rcases hwrite : outputs.out.write text with ⟨out, _ | reason⟩
  · simp only [perform, behind, Sink.writeAll, hwrite]
  · simp only [perform, behind, Sink.writeAll, hwrite]

/-- Failed checks are reported as their script says. -/
theorem perform_ofFailed (failed : List FailedCheck) (outputs : Outputs) :
    (ofFailed failed).perform outputs = Run.report outputs failed := by
  by_cases hfailed : failed = []
  · subst hfailed
    rcases hpass : outputs.out.write Report.pass with ⟨out, _ | reason⟩
    · simp only [perform, ofFailed, Run.report, Sink.writeAll, hpass, if_true]
    · simp only [perform, ofFailed, Run.report, Sink.writeAll, hpass, if_true]
  · simp only [perform, ofFailed, Run.report, Sink.writeAll, if_neg hfailed]
    cases hstuck : outputs.out.stuck with
    | some reason => rfl
    | none =>
        rcases hreport : outputs.err.write (Report.failures failed) with ⟨err, _ | reason⟩
        · rfl
        · rfl

/-- There is something for the second output if and only if the result is that checks fail. -/
def ReportsFailures (s : Script) : Prop :=
  s.err.isSome ↔ ∃ failed, failed ≠ [] ∧ s.result = .ok failed

theorem ReportsFailures.behind (h : s.ReportsFailures) (text : String) :
    (s.behind text).ReportsFailures := h

theorem givenUp_reportsFailures (e : RunError) : (givenUp e).ReportsFailures := by
  constructor
  · intro h
    cases h
  · rintro ⟨failed, _, h⟩
    cases h

theorem ofFailed_reportsFailures (failed : List FailedCheck) :
    (ofFailed failed).ReportsFailures := by
  unfold ofFailed
  split
  · constructor
    · intro h
      cases h
    · rintro ⟨other, hother, h⟩
      exact absurd (Except.ok.inj h).symm hother
  · rename_i hfailed
    exact ⟨fun _ => ⟨failed, hfailed, rfl⟩, fun _ => rfl⟩

end Script

namespace Run

variable {ρ : Type} {engine : RegexEngine ρ} {files : Files} {settings : RunSettings}
  {i : RunInputs} {e : RunError} {reason : String}

/-- What a run writes, and its result. -/
def script (engine : RegexEngine ρ) (files : Files) (settings : RunSettings) (i : RunInputs) :
    Script :=
  match record engine files settings i with
  | .error e => .givenUp e
  | .ok records =>
    match evaluate files settings i records with
    | .error e => (Script.givenUp e).behind (dumped settings i records)
    | .ok failed => (Script.ofFailed failed).behind (dumped settings i records)

/-- A run performs its script, whatever its outputs are. -/
theorem run_eq_perform (engine : RegexEngine ρ) (files : Files) (settings : RunSettings)
    (i : RunInputs) (outputs : Outputs) :
    run engine files settings i outputs = (script engine files settings i).perform outputs := by
  unfold run script
  cases record engine files settings i with
  | error e => rfl
  | ok records =>
      have hdump : Report.dump settings.dump i.fixture records = dumped settings i records := rfl
      rcases hwrite : outputs.out.write (dumped settings i records) with ⟨out, _ | reason⟩
      · cases hevaluate : evaluate files settings i records with
        | error e =>
            simp only [hdump, hwrite, hevaluate, Script.perform_behind]
            rfl
        | ok failed =>
            simp only [hdump, hwrite, hevaluate, Script.perform_behind, Script.perform_ofFailed]
      · -- The dump is refused, so that it does not matter what is to be written behind it.
        cases hevaluate : evaluate files settings i records with
        | error e => simp only [hdump, hwrite, hevaluate, Script.perform_behind]
        | ok failed => simp only [hdump, hwrite, hevaluate, Script.perform_behind]

/-- Reading a document never fails for a refused output. -/
theorem readAs_ne_output {α : Type} {path : String} {ofJson : String → Except LocatedFault α}
    {ofYaml? : String → Option α} (h : files.readAs path ofJson ofYaml? = .error e) :
    e ≠ .output reason := by
  unfold Files.readAs at h
  split at h
  · cases h
    exact RunError.noConfusion
  · split at h
    · split at h
      · cases h
      · cases h
        exact RunError.noConfusion
    · rename_i text _ _
      cases hjson : ofJson text with
      | error fault =>
          rw [hjson] at h
          cases h
          exact RunError.noConfusion
      | ok d =>
          rw [hjson] at h
          cases h

/-- Reading checks does not either. -/
theorem readChecks_ne_output {path : String} (h : files.readChecks path = .error e) :
    e ≠ .output reason := by
  unfold Files.readChecks at h
  split at h
  · rename_i hread
    cases h
    exact readAs_ne_output hread
  · cases h
  · cases h
    exact RunError.noConfusion

/-- Without records the cause is never a refused output: nothing has been written yet. -/
theorem Unrecorded.ne_output (h : Unrecorded engine files settings i e) : e ≠ .output reason := by
  cases h with
  | opening hopen =>
      unfold FileGrammars.openAt at hopen
      split at hopen
      · rename_i hread
        cases hopen
        exact readAs_ne_output hread
      · split at hopen
        · cases hopen
          exact RunError.noConfusion
        · cases hopen
          exact RunError.noConfusion
        · cases hopen
  | compiling _ hcompile =>
      unfold FileGrammars.compile at hcompile
      split at hcompile
      · cases hcompile
        exact RunError.noConfusion
      · cases hcompile
        exact RunError.noConfusion
      · cases hcompile
  | reading _ _ _ => exact RunError.noConfusion
  | tokenizing _ _ _ _ => exact RunError.noConfusion

theorem evaluate_ne_output {records : List RecordedLine}
    (h : evaluate files settings i records = .error e) : e ≠ .output reason := by
  unfold evaluate at h
  cases hchecks : files.readChecks i.expectations with
  | error cause =>
      rw [hchecks] at h
      cases h
      exact readChecks_ne_output hchecks
  | ok checks =>
      rw [hchecks] at h
      cases h

/-- The result that a run has if nothing is refused is not a refused output. -/
theorem script_result_ne_output :
    (script engine files settings i).result ≠ .error (.output reason) := by
  intro h
  unfold script at h
  split at h
  · rename_i hrecord
    exact (record_eq_error_iff.1 hrecord).ne_output (Except.error.inj h)
  · split at h
    · rename_i hevaluate
      exact evaluate_ne_output hevaluate (Except.error.inj h)
    · rename_i failed _
      unfold Script.ofFailed at h
      split at h
      · cases h
      · cases h

/-- There is something for the second output if and only if some check fails. -/
theorem script_reportsFailures (engine : RegexEngine ρ) (files : Files) (settings : RunSettings)
    (i : RunInputs) : (script engine files settings i).ReportsFailures := by
  unfold script
  split
  · exact Script.givenUp_reportsFailures _
  · split
    · exact (Script.givenUp_reportsFailures _).behind _
    · exact (Script.ofFailed_reportsFailures _).behind _

end Run

/-! ## Results -/

namespace RunResult

/-- Some check has failed, and that is the result. -/
def Fails (r : RunResult) : Prop := ∃ failed, failed ≠ [] ∧ r.outcome = .ok failed

/-- What becomes of a result if the first output takes `a` bytes and the second one `b` bytes. -/
structure CutShort (full cut : RunResult) (a b : Nat) (outReason errReason : String) : Prop where
  /-- The first output gets what fits. -/
  out_written : cut.outputs.out.written = full.outputs.out.written.take a
  /-- If something does not fit, this is the result, and the second output gets nothing. -/
  out_refused : a < full.outputs.out.written.length →
    cut.outcome = .error (.output outReason) ∧ cut.outputs.err.written = []
  /-- Otherwise the second output gets what fits. -/
  err_written : full.outputs.out.written.length ≤ a →
    cut.outputs.err.written = full.outputs.err.written.take b
  err_refused : full.outputs.out.written.length ≤ a → b < full.outputs.err.written.length →
    cut.outcome = .error (.output errReason)
  /-- If everything fits, the result is the same. -/
  outcome_eq : full.outputs.out.written.length ≤ a → full.outputs.err.written.length ≤ b →
    cut.outcome = full.outcome

/-- What becomes of a result if the first output takes everything and does not pass it on. -/
structure HeldBack (full held : RunResult) (reason : String) : Prop where
  out_written : held.outputs.out.written = full.outputs.out.written
  /-- The second output gets nothing if there is something for it. -/
  of_fails : full.Fails → held.outcome = .error (.output reason) ∧ held.outputs.err.written = []
  of_not_fails : ¬ full.Fails →
    held.outcome = full.outcome ∧ held.outputs.err.written = full.outputs.err.written
  refused_iff : (∃ why, held.outcome = .error (.output why)) ↔ full.Fails

end RunResult

/-- What a script writes is cut short by outputs with limits. -/
theorem Script.perform_cutShort (s : Script) (a b : Nat) (outReason errReason : String) :
    (s.perform ⟨.unlimited, .unlimited⟩).CutShort
      (s.perform ⟨.upTo a outReason, .upTo b errReason⟩) a b outReason errReason := by
  rw [perform_unlimited]
  rcases Nat.lt_or_ge a s.outBytes.length with ha | ha
  · rw [perform_of_out_lt ha]
    exact {
      out_written := rfl
      out_refused := fun _ => ⟨rfl, rfl⟩
      err_written := fun hle => absurd ha (Nat.not_lt.2 hle)
      err_refused := fun hle => absurd ha (Nat.not_lt.2 hle)
      outcome_eq := fun hle => absurd ha (Nat.not_lt.2 hle) }
  · rw [perform_of_out_le ha]
    exact {
      out_written := (List.take_of_length_le ha).symm
      out_refused := fun hlt => absurd hlt (Nat.not_lt.2 ha)
      err_written := fun _ => rfl
      err_refused := fun _ hb => if_pos hb
      outcome_eq := fun _ hb => if_neg (Nat.not_lt.2 hb) }

/-- A run whose first output is not passed on. -/
theorem Run.heldBack {ρ : Type} (engine : RegexEngine ρ) (files : Files) (settings : RunSettings)
    (i : RunInputs) (reason : String) :
    (run engine files settings i ⟨.unlimited, .unlimited⟩).HeldBack
      (run engine files settings i ⟨.stuckFor reason, .unlimited⟩) reason := by
  have hreports := script_reportsFailures engine files settings i
  rw [run_eq_perform, run_eq_perform, Script.perform_unlimited, Script.perform_stuck]
  cases herr : (script engine files settings i).err with
  | none =>
      have hnot : ¬ ∃ failed, failed ≠ [] ∧ (script engine files settings i).result = .ok failed :=
        fun h => absurd (hreports.2 h) (by rw [herr]; exact Bool.false_ne_true)
      exact {
        out_written := rfl
        of_fails := fun h => absurd h hnot
        of_not_fails := fun _ => ⟨rfl, (Script.errBytes_of_none herr).symm⟩
        refused_iff :=
          ⟨fun ⟨_, h⟩ => absurd h script_result_ne_output, fun h => absurd h hnot⟩ }
  | some pieces =>
      have hfails : ∃ failed, failed ≠ [] ∧ (script engine files settings i).result = .ok failed :=
        hreports.1 (by rw [herr]; rfl)
      exact {
        out_written := rfl
        of_fails := fun _ => ⟨rfl, rfl⟩
        of_not_fails := fun h => absurd hfails h
        refused_iff := ⟨fun _ => hfails, fun _ => ⟨reason, rfl⟩⟩ }

/-- Outputs that take no more cut off the end of what a run writes, and never anything else,
wherever the limits are and into whatever pieces the texts are cut. -/
theorem run_refused_outputs {ρ : Type} (engine : RegexEngine ρ) (files : Files)
    (settings : RunSettings) (i : RunInputs) :
    (∀ a b outReason errReason,
      (run engine files settings i ⟨.unlimited, .unlimited⟩).CutShort
        (run engine files settings i ⟨.upTo a outReason, .upTo b errReason⟩)
        a b outReason errReason) ∧
    (∀ reason, (run engine files settings i ⟨.unlimited, .unlimited⟩).HeldBack
      (run engine files settings i ⟨.stuckFor reason, .unlimited⟩) reason) ∧
    ∀ (s : Script) (outputs : Outputs), s.SameTexts (Run.script engine files settings i) →
      Script.Fits outputs → s.perform outputs = run engine files settings i outputs := by
  refine ⟨fun a b outReason errReason => ?_, fun reason => ?_, fun s outputs hsame hfits => ?_⟩
  · rw [Run.run_eq_perform, Run.run_eq_perform]
    exact Script.perform_cutShort _ a b outReason errReason
  · exact Run.heldBack engine files settings i reason
  · rw [Run.run_eq_perform]
    exact Script.perform_eq_of_sameTexts hsame hfits

end ScopeCheck
