import ScopeCheck.Proofs.Grammar.Compiled
import ScopeCheck.Proofs.Line.Failure
import ScopeCheck.Proofs.Pattern.Refusal
import ScopeCheck.Regex.Engine

/-!
# Patterns that are refused while a text is read

A line fails with a `PatternError` when a search needs a variant of a pattern that the engine
refuses.

* `Grammar.LateRefusal`: what is known of a refused pattern, since every grammar has read its
  patterns when it was compiled;
* `Grammar.MakesSearch.lateRefusal`: this is known of all that a line searches for;
* `Grammar.scan_refusal`, `Grammar.lineStart_refusal`: a scan, and the start of a line, are refused
  for nothing else.

`Grammar.Reachable.refusal_causes` says that only two things can be refused so late, and
`Grammar.quoting_start_refused_late` that this does happen.
-/

namespace ScopeCheck

variable {ρ : Type} {engine : RegexEngine ρ} {g : Grammar ρ} {scanner : Scanner ρ}
  {text : Array Char} {state : LineState ρ} {s : Scan ρ}

/-! ## What can be refused -/

namespace Grammar

/-- The pattern of a refusal has either never been tried, since it starts a rule and quotes a begin
match, or it was accepted as it stands, and lacks an anchor. -/
structure LateRefusal (engine : RegexEngine ρ) (g : Grammar ρ) (e : PatternError) : Prop where
  variant : Pattern.RefusesVariant engine e
  cause : (∃ id pattern, (g.rule id).entryPattern? = some pattern ∧ pattern.source = e.source ∧
      pattern.quotesBegin = true) ∨
    Anchors.occur e.source.toList = true ∧ ∃ regex, engine.compile e.source = .ok regex

/-- The patterns that are tried in a frame start a rule or close the one of the frame. -/
theorem entryPattern_or_closingSearch {frame : Frame ρ} {candidate : Candidate}
    {pattern : Pattern ρ} (h : (candidate, pattern) ∈ g.candidates frame) :
    (∃ id, (g.rule id).entryPattern? = some pattern) ∨ g.ClosingSearch frame pattern := by
  rcases mem_candidates h with ⟨id, _, _, hentry⟩ | ⟨rfl, _⟩
  · exact Or.inl ⟨id, hentry⟩
  · exact Or.inr (Or.inl h)

/-- A pattern that has been read is refused late for one of the two causes, if it starts a rule
wherever it quotes a begin match. -/
theorem lateRefusal_of_read {source : String} {pattern : Pattern ρ} {q : Query}
    {e : PatternError} (hread : Pattern.read engine source = .ok pattern)
    (hquotes : pattern.quotesBegin = true → ∃ id, (g.rule id).entryPattern? = some pattern)
    (h : pattern.search engine q = .error e) : g.LateRefusal engine e := by
  obtain ⟨rfl, hcause⟩ := Pattern.read_eq_ok hread
  obtain ⟨hsource, hvariant⟩ := Pattern.refusesVariant_of_search h
  refine ⟨hvariant, ?_⟩
  rcases hcause with hquoting | haccepted
  · obtain ⟨id, hid⟩ := hquotes hquoting
    refine Or.inl ⟨id, _, hid, ?_, hquoting⟩
    rw [Pattern.source_ofSource, hsource]
  · exact Or.inr (haccepted.refusal h).2

/-- What closes a rule is refused for the lack of an anchor only: where it quotes a begin match, it
is searched for with the quoted texts. -/
theorem Layers.closing_lateRefusal {lib : Library} {parts : List Part}
    (hengine : engine.AcceptsUnmatchable) (hcompiled : g.CompiledFrom engine lib parts)
    {frames : List (Frame ρ)} (hlayers : g.Layers engine frames) {f : Frame ρ} (hf : f ∈ frames)
    {searched : Pattern ρ} (hsearch : g.ClosingSearch f searched) {q : Query} {e : PatternError}
    (h : searched.search engine q = .error e) : g.LateRefusal engine e := by
  obtain ⟨closing, hclosing, hsettled⟩ := hlayers.closingSearch_isSettled hf hsearch
  unfold Pattern.IsSettled at hsettled
  split at hsettled
  · obtain ⟨text, found, rfl⟩ := hsettled
    have hrefusal := (Pattern.fill_isAccepted hengine closing text found).refusal h
    exact ⟨hrefusal.1, Or.inr hrefusal.2⟩
  · rename_i hquotes
    subst hsettled
    obtain ⟨source, hread⟩ := hcompiled.pattern_read (Or.inr hclosing)
    exact lateRefusal_of_read hread (fun hquoting => absurd hquoting hquotes) h

/-- What is tried in a frame has been read with the grammar, or the texts that it quotes have been
put in. -/
theorem Layers.tried_lateRefusal {lib : Library} {parts : List Part}
    (hengine : engine.AcceptsUnmatchable) (hcompiled : g.CompiledFrom engine lib parts)
    (hlayers : g.Layers engine s.stack.frames) {pattern : Pattern ρ}
    (htries : g.Tries engine text s pattern) {q : Query} {e : PatternError}
    (h : pattern.search engine q = .error e) : g.LateRefusal engine e := by
  obtain ⟨candidate, hmem⟩ := htries.exists_mem
  rcases entryPattern_or_closingSearch hmem with ⟨id, hid⟩ | hclosing
  · obtain ⟨source, hread⟩ := hcompiled.pattern_read (Or.inl hid)
    exact lateRefusal_of_read hread (fun _ => ⟨id, hid⟩) h
  · exact hlayers.closing_lateRefusal hengine hcompiled List.mem_cons_self hclosing h

/-- This is known of all that a line searches for. -/
theorem MakesSearch.lateRefusal (hengine : engine.AcceptsUnmatchable) (hloaded : g.Loaded engine)
    (hstate : g.Reachable engine state) {bound : Nat} {line : Array Char} {pattern : Pattern ρ}
    {q : Query} (hsearch : g.MakesSearch engine bound line state pattern q) {e : PatternError}
    (h : pattern.search engine q = .error e) : g.LateRefusal engine e := by
  obtain ⟨lib, parts, hcompiled⟩ := hloaded.compiledFrom
  cases hsearch with
  | condition hchecking hcondition =>
      have hframe := List.mem_reverse.1 (hchecking.suffix.subset List.mem_cons_self)
      exact (hstate.layers hloaded).closing_lateRefusal hengine hcompiled hframe
        (Or.inr ⟨_, hcondition⟩) h
  | candidate hvisits htries =>
      exact (hvisits.layers hloaded hstate).tried_lateRefusal hengine hcompiled htries h

/-- A scan of captured text begins with layers. -/
theorem scansGroup_layers (hcoherent : g.Coherent) {id : RuleIndex} {inside : Array Char}
    {s' : Scan ρ}
    (h : ScansGroup ((g.rule id).entryCaptures ++ (g.rule id).closingCaptures) text inside s') :
    g.Layers engine s'.stack.frames := by
  obtain ⟨number, rule, container, hmem, hrule, base, found, span, atTextStart, before, _, _,
    rfl⟩ := h
  have hcontainer := hcoherent.inner_container id number rule container hmem hrule
  exact innerScan_layers hcontainer base rule text found atTextStart span.start before

section Runs

variable {lib : Library} {parts : List Part} (hengine : engine.AcceptsUnmatchable)
  (hcompiled : g.CompiledFrom engine lib parts) (hcoherent : g.Coherent)

include hengine hcompiled hcoherent

/-- The induction is on how deep scans may stand inside each other, and inside it on the number of
steps, which keep the layers. -/
theorem scan_refusal {depth : Nat} {e : PatternError} (hs : g.Layers engine s.stack.frames)
    (h : g.scan engine depth text s = .error (.pattern e)) : g.LateRefusal engine e := by
  induction depth generalizing text s with
  | zero => cases h
  | succ depth ih =>
      rw [scan] at h
      generalize g.stepBound text s = fuel at h
      induction fuel generalizing s with
      | zero => cases h
      | succ fuel ihfuel =>
          rw [steps] at h
          split at h
          · rename_i own hown
            obtain rfl := Except.error.inj h
            rcases step_eq_error hown with ⟨pattern, own, htries, hsearch, hsame⟩ | hgroup
            · obtain rfl := ScanError.pattern.inj hsame
              exact hs.tried_lateRefusal hengine hcompiled htries hsearch
            · obtain ⟨inside, s', hscan, hstarts⟩ := hgroup
              obtain ⟨id, hgroup⟩ := hstarts.ofStep
              exact ih (scansGroup_layers hcoherent hgroup) hscan
          · rename_i t hnext
            exact ihfuel ((layers_invariant hcoherent).move (step_move hnext) hs) h
          · cases h

theorem lineStart_refusal {depth : Nat} {e : PatternError}
    (hstate : g.Layers engine (g.lineStack state).frames)
    (h : g.lineStart engine (g.scan engine depth) text state = .error (.pattern e)) :
    g.LateRefusal engine e := by
  rcases checkConditions_eq_error .start h with hown | ⟨inside, s', hscan, hstarts⟩
  · obtain ⟨past, f, inner, point, pattern, captures, own, hchecking, hcondition, hsearch,
      hsame⟩ := hown
    obtain rfl := ScanError.pattern.inj hsame
    have hf := List.mem_reverse.1 (hchecking.suffix.subset List.mem_cons_self)
    exact hstate.closing_lateRefusal hengine hcompiled hf (Or.inr ⟨captures, hcondition⟩) hsearch
  · obtain ⟨id, hgroup⟩ := Starts.ofLineStart hstarts
    have hgroup := hgroup.mono (List.subset_append_right (g.rule id).entryCaptures _)
    exact scan_refusal hengine hcompiled hcoherent (scansGroup_layers hcoherent hgroup) hscan

end Runs

/-- When a line of a text is refused, a variant of the pattern in question is refused by the
engine, and either the pattern starts a rule and quotes a begin match, or it is accepted as it
stands and holds an anchor. -/
theorem Reachable.refusal_causes (hengine : engine.AcceptsUnmatchable) (hloaded : g.Loaded engine)
    (hstate : g.Reachable engine state) {line : String} {e : PatternError}
    (h : g.tokenize engine line state = .error (.pattern e)) : g.LateRefusal engine e := by
  obtain ⟨lib, parts, hcompiled⟩ := hloaded.compiledFrom
  have hlayers := hstate.layers hloaded
  have hscan : g.scanLine engine (line.toList ++ ['\n']).toArray state = .error (.pattern e) := by
    unfold tokenize at h
    split at h
    · rename_i own hown
      obtain rfl : own = e := GrammarError.pattern.inj (Except.error.inj h)
      unfold tokenizeChars at hown
      split at hown
      · rename_i own' hown'
        rw [hown', Except.error.inj hown]
      · cases hown
    · cases h
    · cases h
  rw [scanLine_eq] at hscan
  split at hscan
  · rename_i own hown
    rw [Except.error.inj hscan] at hown
    exact lineStart_refusal hengine hcompiled hloaded.coherent hlayers hown
  · rename_i start hstart
    have hstart := (layers_invariant hloaded.coherent).lineStart (hstate.keeps
      (layers_invariant hloaded.coherent)) hstart
    exact scan_refusal hengine hcompiled hloaded.coherent hstart hscan

end Grammar

/-! ## A pattern that is refused late -/

namespace Sample

/-- A source that quotes a begin match, with a parenthesis that is never closed. -/
def unclosed : String := "(a\\1"

/-- Its only rule matches `unclosed`. -/
def unclosedDocument : Document :=
  { Document.blank with patterns := [{ Entry.blank with matchSource := some unclosed }] }

/-- The grammar that is read from the document. -/
def unclosedGrammar (engine : RegexEngine ρ) : Grammar ρ where
  scopeName := "s"
  rules := #[⟨none, none, .container [1]⟩, ⟨none, none, .single (.ofSource engine unclosed) []⟩]
  root := 0
  entries := #[[1], []]

/-- No engine is asked about the source while the grammar is loaded. -/
theorem unclosedGrammar_compileFor (engine : RegexEngine ρ) :
    GrammarProvider.compileFor engine (.ofDocuments [("s", unclosedDocument)]) "s" =
      .ok (some (unclosedGrammar engine)) := by
  cbv

/-- An engine that refuses the source refuses it on the first line. -/
theorem unclosedGrammar_tokenize {engine : RegexEngine ρ} {reason : String}
    (h : engine.compile unclosed = .error reason) :
    (unclosedGrammar engine).tokenize engine "x" .initial =
      .error (.pattern ⟨unclosed, reason⟩) := by
  rw [unclosed] at h ⊢
  cbv
  simp [h]

/-- The engine of this library refuses the source. -/
theorem compile_unclosed :
    Regex.engine.compile unclosed = .error "end pattern with unmatched parenthesis" := by
  have hmessage : (match Regex.engine.compile unclosed with
      | .error reason => reason
      | .ok _ => "") = "end pattern with unmatched parenthesis" := by
    decide +kernel
  cases hresult : Regex.engine.compile unclosed with
  | error reason =>
      rw [hresult] at hmessage
      exact congrArg _ hmessage
  | ok regex =>
      rw [hresult] at hmessage
      simp at hmessage

theorem engine_acceptsUnmatchable : Regex.engine.AcceptsUnmatchable := by
  have hok : (Regex.engine.compile (String.singleton Anchors.unmatchable)).isOk = true := by
    decide +kernel
  cases hresult : Regex.engine.compile (String.singleton Anchors.unmatchable) with
  | error reason =>
      rw [hresult] at hok
      cases hok
  | ok regex => exact ⟨regex, hresult⟩

end Sample

namespace Grammar

/-- A grammar can be loaded whose first line is refused. -/
theorem quoting_start_refused_late : ∃ g,
    GrammarProvider.compileFor Regex.engine (.ofDocuments [("s", Sample.unclosedDocument)]) "s" =
      .ok (some g) ∧
    g.tokenize Regex.engine "x" .initial =
      .error (.pattern ⟨"(a\\1", "end pattern with unmatched parenthesis"⟩) :=
  ⟨_, Sample.unclosedGrammar_compileFor Regex.engine,
    Sample.unclosedGrammar_tokenize Sample.compile_unclosed⟩

/-- The refusal of this line has the first of the two causes. -/
theorem Reachable.sample_refusal_causes :
    Regex.engine.AcceptsUnmatchable ∧
    (Sample.unclosedGrammar Regex.engine).Loaded Regex.engine ∧
    (Sample.unclosedGrammar Regex.engine).Reachable Regex.engine .initial ∧
    (Sample.unclosedGrammar Regex.engine).tokenize Regex.engine "x" .initial =
      .error (.pattern ⟨Sample.unclosed, "end pattern with unmatched parenthesis"⟩) ∧
    (Sample.unclosedGrammar Regex.engine).LateRefusal Regex.engine
      ⟨Sample.unclosed, "end pattern with unmatched parenthesis"⟩ := by
  have hloaded : (Sample.unclosedGrammar Regex.engine).Loaded Regex.engine :=
    ⟨_, _, Sample.unclosedGrammar_compileFor Regex.engine⟩
  have hrefused := Sample.unclosedGrammar_tokenize Sample.compile_unclosed
  exact ⟨Sample.engine_acceptsUnmatchable, hloaded, .initial, hrefused,
    Reachable.refusal_causes Sample.engine_acceptsUnmatchable hloaded .initial hrefused⟩

end Grammar

end ScopeCheck
