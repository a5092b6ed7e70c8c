import ScopeCheck.Proofs.Line.Progress

/-!
# Why a line fails

A line fails where a pattern that is searched for is refused, or where scans stand too deep inside
each other; it never runs out of steps.

* `captureScopes_eq_error`, `Grammar.step_eq_error` and `Grammar.checkConditions_eq_error` trace a
  failure to a search, or to a scan that is started and fails itself;
* `Grammar.MakesSearch` are the searches that a line makes.  Of what is tried in a frame nothing is
  searched for behind a match at the place of the search;
* `Grammar.FailsBy` lists the causes of a failure.  `Grammar.Visits.fails_by` and
  `Grammar.lineStart_fails_by` say that scans and line starts fail for nothing else, and
  `Grammar.Reachable.fails_by` leaves the two causes that remain.
-/

namespace ScopeCheck

variable {ρ : Type} {engine : RegexEngine ρ} {g : Grammar ρ} {scanner : Scanner ρ}
  {text : Array Char} {state : LineState ρ} {s : Scan ρ} {e : ScanError}

/-! ## Where a failure comes from -/

/-- Patterns are searched for from the left; the one that is refused has none in front of it that is
refused or matches at the place of the search. -/
theorem firstOf_eq_error {search : Pattern ρ → Except PatternError (Option Found)} {pos : Nat}
    {best : Option (Candidate × Found)} {candidates : List (Candidate × Pattern ρ)}
    {e : PatternError} (h : firstOf search pos best candidates = .error e) :
    ∃ before candidate pattern after, candidates = before ++ (candidate, pattern) :: after ∧
      (∀ entry ∈ before, ∃ result, search entry.2 = .ok result ∧
        ∀ found, result = some found → found.whole.start ≠ pos) ∧ search pattern = .error e := by
  induction candidates generalizing best with
  | nil => cases h
  | cons head rest ih =>
      obtain ⟨candidate, pattern⟩ := head
      have hrest : ∀ {best result}, search pattern = .ok result →
          (∀ found, result = some found → found.whole.start ≠ pos) →
          firstOf search pos best rest = .error e →
          ∃ before c p after, (candidate, pattern) :: rest = before ++ (c, p) :: after ∧
            (∀ entry ∈ before, ∃ result, search entry.2 = .ok result ∧
              ∀ found, result = some found → found.whole.start ≠ pos) ∧ search p = .error e := by
        intro best result hsearch helsewhere hrest
        obtain ⟨before, c, p, after, rfl, hbefore, herror⟩ := ih hrest
        exact ⟨(candidate, pattern) :: before, c, p, after, rfl,
          List.forall_mem_cons.2 ⟨⟨result, hsearch, helsewhere⟩, hbefore⟩, herror⟩
      rw [firstOf] at h
      split at h
      · rename_i own hown
        obtain rfl := Except.error.inj h
        exact ⟨[], candidate, pattern, rest, rfl, fun _ hentry => absurd hentry List.not_mem_nil,
          hown⟩
      · rename_i hnone
        refine hrest hnone (fun found hfound => ?_) h
        cases hfound
      · rename_i found hfound
        simp only at h
        split at h
        · cases h
        · rename_i helsewhere
          refine hrest hfound (fun found' hsame => ?_) h
          obtain rfl := Option.some.inj hsame
          exact helsewhere

theorem Scanner.failingAt_self (scanner : Scanner ρ) (text : Array Char) (s : Scan ρ)
    (e : ScanError) : scanner.failingAt text s e text s = .error e :=
  if_pos ⟨rfl, rfl⟩

/-- Scans that succeed are not affected by the failure of one that fails anyway. -/
theorem Scanner.failingAt_of_ok {inside : Array Char} {s' r : Scan ρ}
    (hfails : scanner inside s' = .error e) (h : scanner text s = .ok r) (e' : ScanError) :
    scanner.failingAt inside s' e' text s = .ok r := by
  rw [Scanner.failingAt_of_ne, h]
  rintro ⟨rfl, rfl⟩
  cases hfails.symm.trans h

variable {atTextStart : Bool} {base : List String} {found : Found} {captures : GroupRules}
  {groups : OpenGroups} {out : Emitted}

/-- Captures that succeed need only the scans that succeed. -/
theorem captureScopes_of_agrees {scanner' : Scanner ρ} {after : Emitted}
    (hagrees : ∀ text s r, scanner text s = .ok r → scanner' text s = .ok r)
    (h : captureScopes scanner text atTextStart base found captures groups out = .ok after) :
    captureScopes scanner' text atTextStart base found captures groups out = .ok after := by
  induction captures generalizing groups out with
  | nil => exact h
  | cons entry rest ih =>
      obtain ⟨number, rule⟩ := entry
      rw [captureScopes] at h ⊢
      cases hspan : found.span? number with
      | none =>
          rw [hspan] at h
          exact ih h
      | some span =>
          rw [hspan] at h
          dsimp only at h ⊢
          split at h
          · rename_i hempty
            rw [if_pos hempty]
            exact ih h
          · rename_i hne
            rw [if_neg hne]
            split at h
            · rename_i hbehind
              rw [if_pos hbehind]
              exact h
            · rename_i hreach
              rw [if_neg hreach]
              cases hinner : rule.inner with
              | none =>
                  rw [hinner] at h
                  exact ih h
              | some container =>
                  rw [hinner] at h
                  dsimp only at h ⊢
                  split at h
                  · cases h
                  · rename_i r hr
                    rw [hagrees _ _ r hr]
                    exact ih h

/-- Captures fail because of the scan of the text of a group. -/
theorem captureScopes_eq_error
    (h : captureScopes scanner text atTextStart base found captures groups out = .error e) :
    ∃ inside s', scanner inside s' = .error e ∧
      Starts (fun scanner => captureScopes scanner text atTextStart base found captures groups out)
        scanner inside s' := by
  induction captures generalizing groups out with
  | nil => cases h
  | cons entry rest ih =>
      obtain ⟨number, rule⟩ := entry
      unfold Starts
      simp only [captureScopes] at h ⊢
      cases hspan : found.span? number with
      | none =>
          rw [hspan] at h
          exact ih h
      | some span =>
          rw [hspan] at h
          dsimp only at h ⊢
          split at h
          · rename_i hempty
            simp only [if_pos hempty]
            exact ih h
          · rename_i hne
            simp only [if_neg hne]
            split at h
            · cases h
            · rename_i hreach
              simp only [if_neg hreach]
              cases hinner : rule.inner with
              | none =>
                  rw [hinner] at h
                  exact ih h
              | some container =>
                  rw [hinner] at h
                  dsimp only at h ⊢
                  split at h
                  · -- This is the scan that fails.
                    rename_i own hown
                    obtain rfl := Except.error.inj h
                    refine ⟨_, _, hown, fun e' => ?_⟩
                    rw [Scanner.failingAt_self]
                  · rename_i r hr
                    obtain ⟨inside, s', hfails, hstarts⟩ := ih h
                    refine ⟨inside, s', hfails, fun e' => ?_⟩
                    rw [Scanner.failingAt_of_ok hfails hr]
                    exact hstarts e'

namespace Grammar

/-- A pattern is searched for among those that are tried in the innermost frame: none in front of it
is refused or matches where the search starts. -/
def Tries (engine : RegexEngine ρ) (g : Grammar ρ) (text : Array Char) (s : Scan ρ)
    (pattern : Pattern ρ) : Prop :=
  ∃ before candidate after, g.candidates s.stack.top = before ++ (candidate, pattern) :: after ∧
    ∀ entry ∈ before, ∃ result, entry.2.search engine (s.point.query text) = .ok result ∧
      ∀ found, result = some found → found.whole.start ≠ s.point.pos

theorem Tries.exists_mem {pattern : Pattern ρ} (h : g.Tries engine text s pattern) :
    ∃ candidate, (candidate, pattern) ∈ g.candidates s.stack.top := by
  obtain ⟨before, candidate, after, hcandidates, _⟩ := h
  exact ⟨candidate, hcandidates ▸ List.mem_append_right before List.mem_cons_self⟩

/-- A step fails because of a search, or because of a scan that it starts. -/
theorem step_eq_error (h : g.step engine scanner text s = .error e) :
    (∃ pattern own, g.Tries engine text s pattern ∧
      pattern.search engine (s.point.query text) = .error own ∧ e = .pattern own) ∨
    ∃ inside s', scanner inside s' = .error e ∧
      Starts (fun scanner => g.step engine scanner text s) scanner inside s' := by
  unfold Starts
  simp only [step] at h ⊢
  cases hnext : g.next engine text s.point s.stack.top with
  | error own =>
      rw [hnext] at h
      obtain ⟨before, candidate, pattern, after, hcandidates, hbefore, hsearch⟩ :=
        firstOf_eq_error hnext
      exact Or.inl ⟨pattern, own, ⟨before, candidate, after, hcandidates, hbefore⟩, hsearch,
        (Except.error.inj h).symm⟩
  | ok result =>
      rw [hnext] at h
      right
      cases result with
      | none => cases h
      | some next =>
          obtain ⟨candidate, found⟩ := next
          cases candidate with
          | last =>
              obtain ⟨inside, s', hfails, hstarts⟩ :=
                captureScopes_eq_error (stepLast_eq_error_iff.1 h)
              exact ⟨inside, s', hfails, fun e' => stepLast_eq_error_iff.2 (hstarts e')⟩
          | rule id =>
              obtain ⟨inside, s', hfails, hstarts⟩ :=
                captureScopes_eq_error (stepRule_eq_error_iff.1 h)
              exact ⟨inside, s', hfails, fun e' => stepRule_eq_error_iff.2 (hstarts e')⟩

/-- The checks of conditions fail because of the search for one of them, or because of a scan that
they start. -/
theorem checkConditions_eq_error {past : List Passage} {bottom : Frame ρ}
    {kept inner : List (Frame ρ)} {point : ScanPoint}
    (hchecking : g.Checking engine text state past inner point)
    (h : g.checkConditions engine scanner text bottom kept inner point out = .error e) :
    (∃ past frame inner point pattern captures own,
      g.Checking engine text state past (frame :: inner) point ∧
      g.condition? frame = some (pattern, captures) ∧
      pattern.search engine (point.query text) = .error own ∧ e = .pattern own) ∨
    ∃ inside s', scanner inside s' = .error e ∧
      Starts (fun scanner => g.checkConditions engine scanner text bottom kept inner point out)
        scanner inside s' := by
  induction inner generalizing past kept point out with
  | nil => cases h
  | cons frame inner ih =>
      unfold Starts
      simp only [checkConditions] at h ⊢
      cases hcondition : g.condition? frame with
      | none =>
          rw [hcondition] at h
          exact ih (hchecking.skip hcondition) h
      | some condition =>
          obtain ⟨pattern, captures⟩ := condition
          rw [hcondition] at h
          dsimp only at h ⊢
          cases hsearch : pattern.search engine (point.query text) with
          | error own =>
              rw [hsearch] at h
              exact Or.inl ⟨past, frame, inner, point, pattern, captures, own, hchecking,
                hcondition, hsearch, (Except.error.inj h).symm⟩
          | ok result =>
              rw [hsearch] at h
              cases result with
              | none => cases h
              | some found =>
                  dsimp only at h ⊢
                  split at h
                  · -- The captures of this condition fail.
                    rename_i own hown
                    obtain rfl := Except.error.inj h
                    obtain ⟨inside, s', hfails, hstarts⟩ := captureScopes_eq_error hown
                    refine Or.inr ⟨inside, s', hfails, fun e' => ?_⟩
                    unfold Starts at hstarts
                    dsimp only at hstarts
                    rw [hstarts e']
                  · rename_i covered hcovered
                    rcases ih (hchecking.goesOn hcondition hsearch) h with hown | hgroup
                    · exact Or.inl hown
                    · obtain ⟨inside, s', hfails, hstarts⟩ := hgroup
                      refine Or.inr ⟨inside, s', hfails, fun e' => ?_⟩
                      -- The captures of this condition have succeeded without the scan that fails.
                      rw [captureScopes_of_agrees (fun _ _ _ hok =>
                        Scanner.failingAt_of_ok hfails hok e') hcovered]
                      exact hstarts e'

/-! ## Searches that are made -/

/-- The searches that a line makes: those for the conditions of its open rules, as far as they are
checked, and those for what is tried in the scan of the line and in the scans of captured text. -/
inductive MakesSearch (engine : RegexEngine ρ) (g : Grammar ρ) (bound : Nat) (line : Array Char)
    (state : LineState ρ) : Pattern ρ → Query → Prop
  | condition {past : List Passage} {frame : Frame ρ} {inner : List (Frame ρ)} {point : ScanPoint}
      {pattern : Pattern ρ} {captures : GroupRules}
      (hchecking : g.Checking engine line state past (frame :: inner) point)
      (hcondition : g.condition? frame = some (pattern, captures)) :
      MakesSearch engine g bound line state pattern (point.query line)
  | candidate {depth : Nat} {text : Array Char} {s : Scan ρ} {pattern : Pattern ρ}
      (hvisits : g.Visits engine bound line state (depth + 1) text s)
      (htries : g.Tries engine text s pattern) :
      MakesSearch engine g bound line state pattern (s.point.query text)

/-- Why a line fails: scans stand too deep inside each other, a scan makes more steps than it may,
or a pattern that is searched for is refused. -/
inductive FailsBy (engine : RegexEngine ρ) (g : Grammar ρ) (bound : Nat) (line : Array Char)
    (state : LineState ρ) : ScanError → Prop
  | tooDeep : FailsBy engine g bound line state .endless
  | outOfSteps {depth : Nat} {text : Array Char} {s : Scan ρ}
      (hvisits : g.Visits engine bound line state (depth + 1) text s)
      (hsteps : ¬ g.Ends engine (g.scan engine depth) text s (g.scan engine (depth + 1) text s)) :
      FailsBy engine g bound line state .stalled
  | refused {pattern : Pattern ρ} {q : Query} {own : PatternError}
      (hsearch : g.MakesSearch engine bound line state pattern q)
      (herror : pattern.search engine q = .error own) :
      FailsBy engine g bound line state (.pattern own)

variable {line : Array Char} {bound depth : Nat}

theorem steps_eq_error {fuel : Nat} (h : g.steps engine scanner text fuel s = .error e) :
    e = .stalled ∨ ∃ last, Relation.ReflTransGen (g.GoesOn engine scanner text) s last ∧
      g.step engine scanner text last = .error e := by
  induction fuel generalizing s with
  | zero => exact Or.inl (Except.error.inj h).symm
  | succ fuel ih =>
      rw [steps] at h
      split at h
      · rename_i own hown
        exact Or.inr ⟨s, .refl, (Except.error.inj h) ▸ hown⟩
      · rename_i next hnext
        rcases ih h with hstalled | ⟨last, hrun, hlast⟩
        · exact Or.inl hstalled
        · exact Or.inr ⟨last, .head hnext hrun, hlast⟩
      · cases h

/-- Steps that end by themselves with a failure come to one that fails. -/
theorem Ends.exists_error {result : Except ScanError (Scan ρ)}
    (h : g.Ends engine scanner text s result) (hresult : result = .error e) :
    ∃ last, Relation.ReflTransGen (g.GoesOn engine scanner text) s last ∧
      g.step engine scanner text last = .error e := by
  induction h with
  | error hstep => exact ⟨_, .refl, Except.error.inj hresult ▸ hstep⟩
  | halt => cases hresult
  | next hstep _ ih =>
      obtain ⟨last, hrun, hlast⟩ := ih hresult
      exact ⟨last, .head hstep hrun, hlast⟩

theorem Visits.goesOn {last : Scan ρ}
    (hvisits : g.Visits engine bound line state (depth + 1) text s)
    (hrun : Relation.ReflTransGen (g.GoesOn engine (g.scan engine depth) text) s last) :
    g.Visits engine bound line state (depth + 1) text last := by
  induction hrun with
  | refl => exact hvisits
  | tail _ hstep ih => exact ih.next hstep

/-- The induction is on how deep scans may stand inside each other. -/
theorem Visits.fails_by (hvisits : g.Visits engine bound line state depth text s)
    (h : g.scan engine depth text s = .error e) : g.FailsBy engine bound line state e := by
  induction depth generalizing text s with
  | zero =>
      obtain rfl := Except.error.inj h
      exact .tooDeep
  | succ depth ih =>
      have hstep : (∃ last, Relation.ReflTransGen (g.GoesOn engine (g.scan engine depth) text) s
          last ∧ g.step engine (g.scan engine depth) text last = .error e) →
          g.FailsBy engine bound line state e := by
        rintro ⟨last, hrun, hlast⟩
        have hvisits := hvisits.goesOn hrun
        rcases step_eq_error hlast with ⟨pattern, own, htries, herror, rfl⟩ | hgroup
        · exact .refused (.candidate hvisits htries) herror
        · obtain ⟨inside, s', hfails, hstarts⟩ := hgroup
          exact ih (hvisits.inner hstarts) hfails
      by_cases hends : g.Ends engine (g.scan engine depth) text s (g.scan engine (depth + 1) text s)
      · exact hstep (hends.exists_error h)
      · rcases steps_eq_error h with rfl | hlast
        · exact .outOfSteps hvisits hends
        · exact hstep hlast

theorem lineStart_fails_by (h : g.lineStart engine (g.scan engine bound) line state = .error e) :
    g.FailsBy engine bound line state e := by
  rcases checkConditions_eq_error .start h with hown | ⟨inside, s', hfails, hstarts⟩
  · obtain ⟨past, frame, inner, point, pattern, captures, own, hchecking, hcondition, herror,
      rfl⟩ := hown
    exact .refused (.condition hchecking hcondition) herror
  · have hvisits : g.Visits engine bound line state bound inside s' := .condition hstarts
    exact hvisits.fails_by hfails

/-- No scan of a loaded grammar makes more steps than it may. -/
theorem Reachable.fails_by (hengine : engine.SearchesForward) (hloaded : g.Loaded engine)
    (hstate : g.Reachable engine state) (h : g.FailsBy engine bound line state e) :
    e = .endless ∨ ∃ pattern q own, g.MakesSearch engine bound line state pattern q ∧
      pattern.search engine q = .error own ∧ e = .pattern own := by
  cases h with
  | tooDeep => exact Or.inl rfl
  | outOfSteps hvisits hsteps =>
      exact absurd (hstate.scans_end hengine hloaded hvisits _).2 hsteps
  | refused hsearch herror => exact Or.inr ⟨_, _, _, hsearch, herror, rfl⟩

end Grammar

end ScopeCheck
