import ScopeCheck.Proofs.Line.Alike
import ScopeCheck.Proofs.Line.Conditions

/-!
# Grammars that number their rules differently

Two grammars may have the same rules under different numbers.  `Grammar.Renames` says which numbers
belong together; they need not be all numbers of the grammars.  The tokenizer then takes the same
course in both grammars:

* `Grammar.next_like`, `Grammar.step_like`, `Grammar.steps_like`: one step after the other;
* `Grammar.scan_like`: with the scans of captured text inside of each other;
* `Grammar.checkConditions_like`, `Grammar.lineStart_like`: before a line is scanned;
* `Grammar.scanLineWithin_like`: in a line.
-/

namespace ScopeCheck

variable {ρ : Type}

/-- Numbers that belong together, one of each grammar, are those of rules that are alike, and so are
the rules that are tried inside of them. -/
structure Grammar.Renames (R : RuleIndex → RuleIndex → Prop) (g g' : Grammar ρ) : Prop where
  unique : ∀ {i j i' j'}, R i j → R i' j' → (i = i' ↔ j = j')
  root : R g.root g'.root
  scopeName : g.scopeName = g'.scopeName
  rule : ∀ {i j}, R i j → (g.rule i).Like R (g'.rule j)
  entries : ∀ {i j}, R i j → List.Forall₂ R (g.entriesOf i) (g'.entriesOf j)

/-! ## The choice among candidates -/

section Steps

variable {R : RuleIndex → RuleIndex → Prop} {labels : Prop} {excused excused' : ScanError → Prop}
  {engine : RegexEngine ρ} {g g' : Grammar ρ} {line text : Array Char}
  {scanner scanner' : Scanner ρ} {found : Found} {s s' : Scan ρ}

/-- Candidates that are alike with the same patterns. -/
def CandidatesLike (R : RuleIndex → RuleIndex → Prop) :
    List (Candidate × Pattern ρ) → List (Candidate × Pattern ρ) → Prop :=
  List.Forall₂ fun c c' => c.1.Like R c'.1 ∧ c.2 = c'.2

/-- Candidates that are alike with the same match. -/
def ChoiceLike (R : RuleIndex → RuleIndex → Prop) :
    Option (Candidate × Found) → Option (Candidate × Found) → Prop :=
  Option.Rel fun c c' => c.1.Like R c'.1 ∧ c.2 = c'.2

theorem firstOf_like {search : Pattern ρ → Except PatternError (Option Found)} {pos : Nat}
    {candidates candidates' : List (Candidate × Pattern ρ)}
    (hcandidates : CandidatesLike R candidates candidates')
    {best best' : Option (Candidate × Found)} (hbest : ChoiceLike R best best') :
    SameCourse (fun _ => False) (fun _ => False) (ChoiceLike R)
      (firstOf search pos best candidates) (firstOf search pos best' candidates') := by
  induction hcandidates generalizing best best' with
  | nil => exact .values hbest
  | @cons head head' rest rest' hhead _ ih =>
      obtain ⟨candidate, pattern⟩ := head
      obtain ⟨candidate', pattern'⟩ := head'
      obtain ⟨hcandidate, rfl⟩ : candidate.Like R candidate' ∧ pattern = pattern' := hhead
      rw [firstOf, firstOf]
      cases search pattern with
      | error e => exact .same e
      | ok result =>
          cases result with
          | none => exact ih hbest
          | some own =>
              dsimp only
              have hown : ChoiceLike R (some (candidate, own)) (some (candidate', own)) :=
                .some ⟨hcandidate, rfl⟩
              have hchosen : ∀ better : Bool,
                  ChoiceLike R (if better then some (candidate, own) else best)
                    (if better then some (candidate', own) else best') := by
                intro better
                cases better with
                | false => exact hbest
                | true => exact hown
              cases hbest with
              | none =>
                  by_cases hhere : own.whole.start = pos
                  · rw [if_pos hhere, if_pos hhere]
                    exact .values (hchosen true)
                  · rw [if_neg hhere, if_neg hhere]
                    exact ih (hchosen true)
              | @some current current' hcurrent =>
                  obtain ⟨kept, current⟩ := current
                  obtain ⟨kept', current'⟩ := current'
                  obtain ⟨_, rfl⟩ : kept.Like R kept' ∧ current = current' := hcurrent
                  by_cases hhere : own.whole.start = pos
                  · rw [if_pos hhere, if_pos hhere]
                    exact .values (hchosen _)
                  · rw [if_neg hhere, if_neg hhere]
                    exact ih (hchosen _)

theorem Rule.Like.entryPattern? {r r' : Rule ρ} (h : r.Like R r') :
    r.entryPattern? = r'.entryPattern? := by
  obtain ⟨name, contentName, form⟩ := r
  obtain ⟨name', contentName', form'⟩ := r'
  obtain ⟨_, _, hform⟩ := h
  cases hform <;> rfl

namespace Grammar

variable (hren : g.Renames R g')

include hren

theorem candidates_like {f f' : Frame ρ} (hf : f.Like R labels f') :
    CandidatesLike R (g.candidates f) (g'.candidates f') := by
  have hstarts : CandidatesLike R
      ((g.entriesOf f.rule).filterMap fun id =>
        ((g.rule id).entryPattern?).map fun p => (.rule id, p))
      ((g'.entriesOf f'.rule).filterMap fun id =>
        ((g'.rule id).entryPattern?).map fun p => (.rule id, p)) := by
    have hentries := hren.entries hf.rule
    generalize g.entriesOf f.rule = entries at hentries ⊢
    generalize g'.entriesOf f'.rule = entries' at hentries ⊢
    induction hentries with
    | nil => exact .nil
    | @cons id id' rest rest' hid _ ih =>
        rw [List.filterMap_cons, List.filterMap_cons, ← (hren.rule hid).entryPattern?]
        cases (g.rule id).entryPattern? with
        | none => exact ih
        | some p => exact .cons ⟨.rule hid, rfl⟩ ih
  have hform := (hren.rule hf.rule).form
  unfold Grammar.candidates
  generalize (g.rule f.rule).form = form at hform ⊢
  generalize (g'.rule f'.rule).form = form' at hform ⊢
  cases hform with
  | single => exact hstarts
  | during => exact hstarts
  | container => exact hstarts
  | @region first last begins begins' ends ends' flag =>
      dsimp only
      have hlast : CandidatesLike R [(Candidate.last, f.filledLast.getD last)]
          [(.last, f'.filledLast.getD last)] := by
        rw [hf.filledLast]
        exact .cons ⟨.last, rfl⟩ .nil
      cases flag with
      | false => exact List.rel_append hlast hstarts
      | true => exact List.rel_append hstarts hlast

/-- The same is matched in both grammars. -/
theorem next_like {point : ScanPoint} {f f' : Frame ρ} (hf : f.Like R labels f') :
    SameCourse (fun _ => False) (fun _ => False) (ChoiceLike R)
      (g.next engine text point f) (g'.next engine text point f') :=
  firstOf_like (candidates_like hren hf) .none

/-! ## Steps -/

theorem lastCaptures_like {id id' : RuleIndex} (hid : R id id') :
    GroupRules.Like R (g.lastCaptures id) (g'.lastCaptures id') := by
  have hform := (hren.rule hid).form
  unfold lastCaptures
  generalize (g.rule id).form = form at hform ⊢
  generalize (g'.rule id').form = form' at hform ⊢
  cases hform with
  | region _ hends => exact hends
  | single => exact .nil
  | during => exact .nil
  | container => exact .nil

end Grammar

theorem Scan.Like.upTo (hs : s.Like R labels s') {scopes scopes' : List String}
    (hscopes : labels → scopes = scopes') (stop : Nat) :
    (s.upTo scopes stop).Like R labels (s'.upTo scopes' stop) := by
  refine ⟨hs.point, hs.stack, fun hlabels => ?_⟩
  show s.emitted.upTo scopes stop = s'.emitted.upTo scopes' stop
  rw [hs.emitted hlabels, hscopes hlabels]

theorem Scan.Like.halt (hs : s.Like R labels s') (reason : Halt) {scopes scopes' : List String}
    (hscopes : labels → scopes = scopes') (text : Array Char) :
    ScanStep.Like R labels (s.halt reason scopes text) (s'.halt reason scopes' text) :=
  .halt (hs.upTo hscopes text.size)

theorem Stack.Like.bodyScopes {stack stack' : Stack ρ} (h : stack.Like R labels stack') :
    labels → stack.bodyScopes = stack'.bodyScopes :=
  h.top.bodyScopes

theorem Stack.Like.frames {stack stack' : Stack ρ} (h : stack.Like R labels stack') :
    List.Forall₂ (Frame.Like R labels) stack.frames stack'.frames :=
  .cons h.top h.below

theorem Stack.Like.pop {stack stack' : Stack ρ} (h : stack.Like R labels stack') :
    stack.pop.Like R labels stack'.pop ∧ stack.canPop = stack'.canPop := by
  obtain ⟨top, below⟩ := stack
  obtain ⟨top', below'⟩ := stack'
  obtain ⟨htop, hbelow⟩ := h
  cases hbelow with
  | nil => exact ⟨⟨htop, .nil⟩, rfl⟩
  | cons hnext hrest => exact ⟨⟨hnext, hrest⟩, rfl⟩

theorem Stack.Like.justOpened (hren : g.Renames R g') {stack stack' : Stack ρ}
    (h : stack.Like R labels stack') {id id' : RuleIndex} (hid : R id id') (pos : Nat) :
    stack.justOpened id pos = stack'.justOpened id' pos := by
  have hframes := h.frames
  unfold Stack.justOpened
  generalize stack.frames = frames at hframes ⊢
  generalize stack'.frames = frames' at hframes ⊢
  induction hframes with
  | nil => rfl
  | @cons f f' rest rest' hf _ ih =>
      rw [List.takeWhile_cons, List.takeWhile_cons, hf.openedAt]
      split
      · have hsame : (f.rule == id) = (f'.rule == id') := by
          rw [Bool.eq_iff_iff, beq_iff_eq, beq_iff_eq]
          exact hren.unique hf.rule hid
        rw [List.any_cons, List.any_cons, ih, hsame]
      · rfl

section Step

variable (hscanner : scanner.Like R labels excused excused' line scanner')
  (htext : IsBeginning line text) (hren : g.Renames R g') (hinside : found.SpansInside text)
  (hs : s.Like R labels s')

include hscanner htext hren hinside hs

theorem Grammar.stepLast_like :
    SameCourse excused excused' (ScanStep.Like R labels) (g.stepLast scanner text found s)
      (g'.stepLast scanner' text found s') := by
  have htop := hs.stack.top
  have hcovered := coverMatch_like hscanner htext hinside (lastCaptures_like hren htop.rule)
    htop.matchScopes (hs.upTo htop.bodyScopes found.whole.start)
  unfold stepLast
  dsimp only
  generalize coverMatch scanner _ _ _ _ _ = x at hcovered ⊢
  generalize coverMatch scanner' _ _ _ _ _ = y at hcovered ⊢
  cases hcovered with
  | same e => exact .same e
  | left h => exact .left h
  | right h => exact .right h
  | @values after after' hafter =>
      dsimp only
      rw [← htop.openedAt, ← hafter.point, ← htop.anchor, ← hafter.stack.pop.2]
      split
      · exact .values (hafter.halt _ htop.bodyScopes text)
      · exact .values (.next ⟨rfl, hafter.stack.pop.1, hafter.emitted⟩)

theorem Grammar.stepEnter_like {id id' : RuleIndex} (hid : R id id') {rule rule' : Rule ρ}
    (hcontentName : rule.contentName = rule'.contentName) {scopes scopes' : List String}
    (hscopes : labels → scopes = scopes') {captures captures' : GroupRules}
    (hcaptures : GroupRules.Like R captures captures') (last : Pattern ρ) :
    SameCourse excused excused' (ScanStep.Like R labels)
      (stepEnter engine scanner text id rule scopes captures last found s)
      (stepEnter engine scanner' text id' rule' scopes' captures' last found s') := by
  have hcovered := coverMatch_like hscanner htext hinside hcaptures hscopes hs
  unfold stepEnter
  dsimp only
  generalize coverMatch scanner _ _ _ _ _ = x at hcovered ⊢
  generalize coverMatch scanner' _ _ _ _ _ = y at hcovered ⊢
  cases hcovered with
  | same e => exact .same e
  | left h => exact .left h
  | right h => exact .right h
  | @values after after' hafter =>
      dsimp only
      rw [← hafter.point, ← hafter.stack.justOpened hren hid]
      split
      · exact .values (hafter.halt _ hafter.stack.bodyScopes text)
      · refine .values (.next ⟨rfl, ⟨⟨hid, rfl, rfl, rfl, rfl, hscopes, fun hlabels => ?_⟩,
          hafter.stack.frames⟩, hafter.emitted⟩)
        show withName scopes _ = withName scopes' _
        rw [hscopes hlabels, hcontentName]

omit hren in
theorem Grammar.stepSingle_like {scopes scopes' : List String}
    (hscopes : labels → scopes = scopes') {captures captures' : GroupRules}
    (hcaptures : GroupRules.Like R captures captures') :
    SameCourse excused excused' (ScanStep.Like R labels)
      (stepSingle scanner text scopes captures found s)
      (stepSingle scanner' text scopes' captures' found s') := by
  have hcovered := coverMatch_like hscanner htext hinside hcaptures hscopes hs
  unfold stepSingle
  dsimp only
  generalize coverMatch scanner _ _ _ _ _ = x at hcovered ⊢
  generalize coverMatch scanner' _ _ _ _ _ = y at hcovered ⊢
  cases hcovered with
  | same e => exact .same e
  | left h => exact .left h
  | right h => exact .right h
  | @values after after' hafter =>
      dsimp only
      rw [← hafter.point]
      have hpop := hafter.stack.pop.1
      split
      · have hleft : Scan.Like R labels { after with stack := after.stack.pop }
            ⟨after.point, after'.stack.pop, after'.emitted⟩ := ⟨rfl, hpop, hafter.emitted⟩
        exact .values (hleft.halt _ hpop.bodyScopes text)
      · exact .values (.next ⟨rfl, hafter.stack, hafter.emitted⟩)

theorem Grammar.stepRule_like {id id' : RuleIndex} (hid : R id id') :
    SameCourse excused excused' (ScanStep.Like R labels)
      (g.stepRule engine scanner text id found s)
      (g'.stepRule engine scanner' text id' found s') := by
  have hrule := hren.rule hid
  have hbody := hs.stack.bodyScopes
  have hbefore := hs.upTo hbody found.whole.start
  have hscopes : labels →
      withName s.stack.bodyScopes ((g.rule id).name.map fun t => t.fill text found) =
        withName s'.stack.bodyScopes ((g'.rule id').name.map fun t => t.fill text found) := by
    intro hlabels
    rw [hbody hlabels, hrule.name]
  have hform := hrule.form
  unfold stepRule
  dsimp only
  generalize (g.rule id).form = form at hform ⊢
  generalize (g'.rule id').form = form' at hform ⊢
  cases hform with
  | single hown => exact stepSingle_like hscanner htext hinside hbefore hscopes hown
  | region hbegins =>
      exact stepEnter_like hscanner htext hren hinside hbefore hid hrule.contentName hscopes
        hbegins _
  | during hbegins =>
      exact stepEnter_like hscanner htext hren hinside hbefore hid hrule.contentName hscopes
        hbegins _
  | container => exact .values (hbefore.halt _ hbody text)

end Step

section Runs

variable (hengine : engine.StaysInside) (hren : g.Renames R g')

include hengine hren

/-- One step does the same in both grammars. -/
theorem Grammar.step_like (hscanner : scanner.Like R labels excused excused' line scanner')
    (htext : IsBeginning line text) (hs : s.Like R labels s') :
    SameCourse excused excused' (ScanStep.Like R labels) (g.step engine scanner text s)
      (g'.step engine scanner' text s') := by
  have hchoice : SameCourse (fun _ => False) (fun _ => False) (ChoiceLike R)
      (g.next engine text s.point s.stack.top) (g'.next engine text s.point s'.stack.top) :=
    next_like hren hs.stack.top
  unfold step
  rw [← hs.point]
  generalize hnext : g.next engine text s.point s.stack.top = x at hchoice ⊢
  generalize g'.next engine text s.point s'.stack.top = y at hchoice ⊢
  cases hchoice with
  | same e => exact .same (ScanError.pattern e)
  | left h => exact h.elim
  | right h => exact h.elim
  | values hchoice =>
      cases hchoice with
      | none => exact .values (hs.halt _ hs.stack.bodyScopes text)
      | @some choice choice' hsame =>
          obtain ⟨candidate, found⟩ := choice
          obtain ⟨candidate', found'⟩ := choice'
          obtain ⟨hcandidate, rfl⟩ : candidate.Like R candidate' ∧ found = found' := hsame
          obtain ⟨pattern, _, hsearch⟩ := next_eq_some hnext
          have hinside : found.SpansInside text := Pattern.search_spansInside hengine hsearch
          cases hcandidate with
          | last => exact stepLast_like hscanner htext hren hinside hs
          | rule hid => exact stepRule_like hscanner htext hren hinside hs hid

/-- Steps are repeated equally often, unless one of the two runs has too few of them. -/
theorem Grammar.steps_like (hscanner : scanner.Like R labels excused excused' line scanner')
    (htext : IsBeginning line text) (hs : s.Like R labels s') {fuel fuel' : Nat}
    (hfuel : fuel = fuel' ∨ excused .stalled ∧ excused' .stalled) :
    SameCourse excused excused' (Scan.Like R labels) (g.steps engine scanner text fuel s)
      (g'.steps engine scanner' text fuel' s') := by
  induction fuel generalizing fuel' s s' with
  | zero =>
      rcases hfuel with rfl | hstalled
      · exact .same ScanError.stalled
      · exact .left hstalled.1
  | succ fuel ih =>
      cases fuel' with
      | zero =>
          rcases hfuel with hfuel | hstalled
          · cases hfuel
          · exact .right hstalled.2
      | succ fuel' =>
          have hfuel : fuel = fuel' ∨ excused .stalled ∧ excused' .stalled :=
            hfuel.imp_left Nat.succ.inj
          have hstep := step_like hengine hren hscanner htext hs
          rw [steps, steps]
          generalize g.step engine scanner text s = x at hstep ⊢
          generalize g'.step engine scanner' text s' = y at hstep ⊢
          cases hstep with
          | same e => exact .same e
          | left h => exact .left h
          | right h => exact .right h
          | values hstep =>
              cases hstep with
              | next hnext => exact ih hnext hfuel
              | halt hhalt => exact .values hhalt

end Runs

/-! ## Lines -/

theorem Grammar.condition?_like (hren : g.Renames R g') {f f' : Frame ρ}
    (hf : f.Like R labels f') :
    Option.Rel (fun c c' => c.1 = c'.1 ∧ GroupRules.Like R c.2 c'.2) (g.condition? f)
      (g'.condition? f') := by
  have hform := (hren.rule hf.rule).form
  unfold condition?
  generalize (g.rule f.rule).form = form at hform ⊢
  generalize (g'.rule f'.rule).form = form' at hform ⊢
  cases hform with
  | single => exact .none
  | region => exact .none
  | container => exact .none
  | during _ hlines => exact .some ⟨by rw [hf.filledLast], hlines⟩

theorem Stack.Like.stackOf {bottom bottom' : Frame ρ} (hbottom : bottom.Like R labels bottom')
    {kept kept' : List (Frame ρ)} (h : List.Forall₂ (Frame.Like R labels) kept kept') :
    (Grammar.stackOf bottom kept).Like R labels (Grammar.stackOf bottom' kept') := by
  cases h with
  | nil => exact ⟨hbottom, .nil⟩
  | cons htop hbelow => exact ⟨htop, hbelow⟩

/-- The conditions of the open rules are checked in the same way. -/
theorem Grammar.checkConditions_like (hengine : engine.StaysInside) (hren : g.Renames R g')
    (hscanner : scanner.Like R labels excused excused' line scanner')
    {bottom bottom' : Frame ρ} (hbottom : bottom.Like R labels bottom')
    {kept kept' inner inner' : List (Frame ρ)}
    (hkept : List.Forall₂ (Frame.Like R labels) kept kept')
    (hinner : List.Forall₂ (Frame.Like R labels) inner inner') {point : ScanPoint}
    {out out' : Emitted} (hout : labels → out = out') :
    SameCourse excused excused' (Scan.Like R labels)
      (g.checkConditions engine scanner line bottom kept inner point out)
      (g'.checkConditions engine scanner' line bottom' kept' inner' point out') := by
  induction hinner generalizing kept kept' point out out' with
  | nil => exact .values ⟨rfl, .stackOf hbottom hkept, hout⟩
  | @cons f f' rest rest' hf _ ih =>
      have hcondition := condition?_like hren hf
      have hkept' : List.Forall₂ (Frame.Like R labels) (f :: kept) (f' :: kept') := .cons hf hkept
      rw [checkConditions, checkConditions]
      generalize g.condition? f = condition at hcondition ⊢
      generalize g'.condition? f' = condition' at hcondition ⊢
      cases hcondition with
      | none => exact ih hkept' hout
      | @some own own' hown =>
          obtain ⟨pattern, captures⟩ := own
          obtain ⟨pattern', captures'⟩ := own'
          obtain ⟨rfl, hcaptures⟩ :
              pattern = pattern' ∧ GroupRules.Like R captures captures' := hown
          dsimp only
          cases hsearch : pattern.search engine (point.query line) with
          | error e => exact .same (ScanError.pattern e)
          | ok result =>
              cases result with
              | none => exact .values ⟨rfl, .stackOf hbottom hkept, hout⟩
              | some found =>
                  dsimp only
                  have hinside : found.SpansInside line :=
                    Pattern.search_spansInside hengine hsearch
                  have hgroups : labels → ([] : OpenGroups) = [] := fun _ => rfl
                  have hreached : labels → out.upTo f.bodyScopes found.whole.start =
                      out'.upTo f'.bodyScopes found.whole.start := by
                    intro hlabels
                    rw [hout hlabels, hf.bodyScopes hlabels]
                  have hcovered := captureScopes_like hscanner (.refl line) hinside hcaptures
                    hf.bodyScopes hgroups hreached point.atTextStart
                  generalize captureScopes scanner _ _ _ _ _ _ _ = x at hcovered ⊢
                  generalize captureScopes scanner' _ _ _ _ _ _ _ = y at hcovered ⊢
                  cases hcovered with
                  | same e => exact .same e
                  | left h => exact .left h
                  | right h => exact .right h
                  | @values after after' hafter =>
                      refine ih hkept' fun hlabels => ?_
                      rw [hafter hlabels, hf.bodyScopes hlabels]

/-- Between lines the stacks are alike. -/
inductive LineState.Like (R : RuleIndex → RuleIndex → Prop) (labels : Prop) :
    LineState ρ → LineState ρ → Prop
  | initial : Like R labels .initial .initial
  | inside {stack stack' : Stack ρ} (h : stack.Like R labels stack') :
      Like R labels (.inside stack) (.inside stack')

theorem Stack.Like.forNextLine {stack stack' : Stack ρ} (h : stack.Like R labels stack') :
    stack.forNextLine.Like R labels stack'.forNextLine := by
  have hframe : ∀ {f f' : Frame ρ}, f.Like R labels f' →
      f.forNextLine.Like R labels f'.forNextLine := fun hf =>
    ⟨hf.rule, rfl, rfl, hf.tookLineEnd, hf.filledLast, hf.matchScopes, hf.bodyScopes⟩
  refine ⟨hframe h.top, List.forall₂_map_left_iff.2 (List.forall₂_map_right_iff.2 ?_)⟩
  exact h.below.imp fun _ _ hf => hframe hf

namespace Grammar

variable {state state' : LineState ρ}

theorem lineStack_like (hren : g.Renames R g') (hstate : state.Like R labels state') :
    (g.lineStack state).Like R labels (g'.lineStack state') := by
  cases hstate with
  | initial =>
      have hscope : labels → [g.scopeName] = [g'.scopeName] := fun _ => by rw [hren.scopeName]
      exact ⟨⟨hren.root, rfl, rfl, rfl, rfl, hscope, hscope⟩, .nil⟩
  | inside h => exact h.forNextLine

/-- Lines start in the same way. -/
theorem lineStart_like (hengine : engine.StaysInside) (hren : g.Renames R g')
    (hscanner : scanner.Like R labels excused excused' line scanner')
    (hstate : state.Like R labels state') :
    SameCourse excused excused' (Scan.Like R labels) (g.lineStart engine scanner line state)
      (g'.lineStart engine scanner' line state') := by
  have hstack := lineStack_like hren hstate
  have hframes := List.rel_reverse hstack.frames
  have hpoint : startPoint state (g.lineStack state) = startPoint state' (g'.lineStack state') := by
    unfold startPoint
    rw [hstack.top.tookLineEnd]
    cases hstate <;> rfl
  have hbottom : ((g.lineStack state).frames.reverse.headD (g.lineStack state).top).Like R labels
      ((g'.lineStack state').frames.reverse.headD (g'.lineStack state').top) := by
    generalize (g.lineStack state).frames.reverse = frames at hframes ⊢
    generalize (g'.lineStack state').frames.reverse = frames' at hframes ⊢
    cases hframes with
    | nil => exact hstack.top
    | cons h _ => exact h
  unfold lineStart
  dsimp only
  rw [hpoint]
  exact checkConditions_like hengine hren hscanner hbottom .nil hframes fun _ => rfl

/-- Scans take the same course if those inside of them do. -/
theorem scan_like (hengine : engine.StaysInside) (hren : g.Renames R g') {depth depth' : Nat}
    (hinner : Scanner.Like R labels excused excused' line (g.scan engine depth)
      (g'.scan engine depth'))
    (hfuel : g.rules.size = g'.rules.size ∨ excused .stalled ∧ excused' .stalled)
    (htext : IsBeginning line text) (hs : s.Like R labels s') :
    SameCourse excused excused' (Scan.Like R labels) (g.scan engine (depth + 1) text s)
      (g'.scan engine (depth' + 1) text s') := by
  have hdepth : s.stack.depth = s'.stack.depth := hs.stack.frames.length_eq
  refine steps_like hengine hren hinner htext hs (hfuel.imp_left fun hsize => ?_)
  unfold stepBound
  rw [hdepth, hsize]

/-- Scans a line; at most `depth` scans may stand inside each other. -/
def scanLineWithin (engine : RegexEngine ρ) (g : Grammar ρ) (depth : Nat) (line : Array Char)
    (state : LineState ρ) : Except ScanError (Scan ρ) :=
  match g.lineStart engine (g.scan engine depth) line state with
  | .error e => .error e
  | .ok s => g.scan engine depth line s

/-- Lines take the same course if the scans of captured texts in them do. -/
theorem scanLineWithin_like (hengine : engine.StaysInside) (hren : g.Renames R g')
    {depth depth' : Nat} (hinner : Scanner.Like R labels excused excused' line
      (g.scan engine depth) (g'.scan engine depth'))
    (hfuel : g.rules.size = g'.rules.size ∨ excused .stalled ∧ excused' .stalled)
    (hstate : state.Like R labels state') :
    SameCourse excused excused' (Scan.Like R labels)
      (g.scanLineWithin engine (depth + 1) line state)
      (g'.scanLineWithin engine (depth' + 1) line state') := by
  have hscanner : Scanner.Like R labels excused excused' line (g.scan engine (depth + 1))
      (g'.scan engine (depth' + 1)) :=
    fun _ htext _ _ hs _ _ => scan_like hengine hren hinner hfuel htext hs
  have hstart := lineStart_like hengine hren hscanner hstate
  unfold scanLineWithin
  generalize g.lineStart engine _ line state = x at hstart ⊢
  generalize g'.lineStart engine _ line state' = y at hstart ⊢
  cases hstart with
  | values hs => exact scan_like hengine hren hinner hfuel (.refl line) hs
  | same e => exact .same e
  | left h => exact .left h
  | right h => exact .right h

end Grammar

end Steps

end ScopeCheck
