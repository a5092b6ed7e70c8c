import ScopeCheck.Proofs.Line.Reach

/-!
# The scopes of scanned groups

The text of a group whose rule has patterns is scanned with them.  What the scan emits has the
scopes outside the match in front, and then those of the name of the group.  The scopes of named
groups around it stand between them only where there is no token left to see it: where those groups
have patterns themselves, so that their text has been scanned before.

* `ScansText` is the scan of the text of a group, as captures come to it;
* `foldlM_captureStep_scanned`: a group with patterns that has been gone through has tokens up to
  its end;
* `GroupRules.scopesAround_eq_nil`: without such a group around it, and without scopes of the groups
  around it that have no patterns, there are none between;
* `Grammar.inner_tokens_extend` is the result.
-/

namespace ScopeCheck

variable {ρ : Type} {engine : RegexEngine ρ} {g : Grammar ρ} {scanner : Scanner ρ}
  {text : Array Char} {atTextStart : Bool} {base : List String} {found : Found}
  {captures : GroupRules} {number : Nat} {rule : GroupRule} {span : Span}

/-- Whether a range lies inside another one. -/
def Span.liesIn (span around : Span) : Bool :=
  around.start ≤ span.start && span.stop ≤ around.stop

theorem Span.liesIn_iff {span around : Span} :
    span.liesIn around = true ↔ around.start ≤ span.start ∧ span.stop ≤ around.stop := by
  simp [Span.liesIn]

/-- The rules of the groups with lower numbers. -/
def GroupRules.below (captures : GroupRules) (number : Nat) : GroupRules :=
  captures.filter fun entry => entry.1 < number

/-- The rules without patterns. -/
def GroupRules.plain (captures : GroupRules) : GroupRules :=
  captures.filter fun entry => entry.2.inner.isNone

theorem GroupRules.mem_below {entry : Nat × GroupRule} :
    entry ∈ captures.below number ↔ entry ∈ captures ∧ entry.1 < number := by
  simp [below]

theorem GroupRules.mem_plain {entry : Nat × GroupRule} :
    entry ∈ captures.plain ↔ entry ∈ captures ∧ entry.2.inner = none := by
  simp [plain]

/-- Captures come to scan the text of a group, with the scan `s`. -/
def ScansText (scanner : Scanner ρ) (text : Array Char) (atTextStart : Bool) (base : List String)
    (captures : GroupRules) (found : Found) (before : Emitted) (number : Nat) (rule : GroupRule)
    (span : Span) (s : Scan ρ) : Prop :=
  ∃ done rest state container, captures.inReach found = done ++ (number, rule) :: rest ∧
    done.foldlM (captureStep scanner text atTextStart base found) ([], before) = .ok state ∧
      found.HasText number span ∧ rule.inner = some container ∧
        s = innerScan container base rule text found atTextStart span.start
          (arriveAt base span.start state).2

/-- The captures in front of a group are those with lower numbers. -/
theorem mem_done_of_mem_below {done rest : GroupRules} (hascending : captures.Ascending)
    (hreach : captures.inReach found = done ++ (number, rule) :: rest) {entry : Nat × GroupRule}
    (hentry : entry ∈ captures.below number) : entry ∈ done := by
  obtain ⟨hmem, hlt⟩ := GroupRules.mem_below.1 hentry
  obtain ⟨behind, hbehind⟩ : captures.inReach found <+: captures := List.takeWhile_prefix _
  rw [hreach, List.append_assoc] at hbehind
  rw [← hbehind] at hmem hascending
  rcases List.mem_append.1 hmem with hdone | hlater
  · exact hdone
  · -- From the group on, numbers only grow.
    have hnumber := (List.pairwise_append.1 hascending).2.1
    rw [List.cons_append] at hnumber hlater
    rcases List.mem_cons.1 hlater with rfl | hlater
    · exact absurd hlt (Nat.lt_irrefl _)
    · exact absurd hlt (Nat.lt_asymm ((List.pairwise_cons.1 hnumber).1 entry hlater))

/-! ## What has been scanned before -/

theorem le_reached_closeGroups (start : Nat) (groups : OpenGroups) (out : Emitted) :
    out.reached ≤ (closeGroups start groups out).2.reached := by
  induction groups generalizing out with
  | nil => exact Nat.le_refl _
  | cons group outer ih =>
      obtain ⟨scopes, stop⟩ := group
      rw [closeGroups]
      split
      · have hup := out.reached_upTo_eq_max scopes stop
        exact Nat.le_trans (hup ▸ Nat.le_max_left _ _) (ih _)
      · exact Nat.le_refl _

theorem le_reached_arriveAt (base : List String) (start : Nat) (state : GroupState) :
    state.2.reached ≤ (arriveAt base start state).2.reached := by
  have hup := Emitted.reached_upTo_eq_max (closeGroups start state.1 state.2).2
    ((closeGroups start state.1 state.2).1.scopes base) start
  exact Nat.le_trans (le_reached_closeGroups start state.1 state.2)
    (Nat.le_trans (Nat.le_max_left _ start) (Nat.le_of_eq hup.symm))

theorem CaptureMove.le_reached (hscanner : scanner.Fills) {state next : GroupState}
    {entry : Nat × GroupRule}
    (hmove : CaptureMove scanner text atTextStart base found state entry next)
    (htiled : state.2.Tiled) : state.2.reached ≤ next.2.reached := by
  cases hmove with
  | noText => exact Nat.le_refl _
  | scanned _ _ hscan =>
      have hreached := (hscanner _ _ _ (arriveAt_tiled base _ htiled) hscan).2
      exact Nat.le_trans (le_reached_arriveAt base _ state)
        (Nat.le_trans (Nat.le_max_left _ _) (Nat.le_of_eq hreached.symm))
  | entered => exact le_reached_arriveAt base _ state
  | passed => exact le_reached_arriveAt base _ state

/-- A group with patterns has tokens up to its end. -/
theorem CaptureMove.stop_le_reached (hscanner : scanner.Fills)
    (hinside : ∀ span ∈ found.texts, span.stop ≤ text.size) {state next : GroupState}
    {entry : Nat × GroupRule}
    (hmove : CaptureMove scanner text atTextStart base found state entry next)
    (htiled : state.2.Tiled) (hinner : entry.2.inner.isSome) {around : Span}
    (haround : found.HasText entry.1 around) : around.stop ≤ next.2.reached := by
  cases hmove with
  | noText htext => exact absurd haround (htext around)
  | @scanned span _ s htext _ hscan =>
      obtain rfl : span = around := Option.some.inj (htext.range.symm.trans haround.range)
      have hreached := (scanned_reached hscanner hinside htext
        (arriveAt_tiled base span.start htiled) hscan).2
      exact hreached ▸ Nat.le_max_right _ _
  | entered _ hnone =>
      rw [hnone] at hinner
      cases hinner
  | passed _ hnone =>
      rw [hnone] at hinner
      cases hinner

/-- All groups with patterns that have been gone through have tokens up to their ends. -/
theorem foldlM_captureStep_scanned (hscanner : scanner.Fills)
    (hinside : ∀ span ∈ found.texts, span.stop ≤ text.size) {entries : GroupRules}
    {state last : GroupState} (htiled : state.2.Tiled)
    (h : entries.foldlM (captureStep scanner text atTextStart base found) state = .ok last) :
    last.2.Tiled ∧ ∀ entry ∈ entries, entry.2.inner.isSome →
      ∀ around, found.HasText entry.1 around → around.stop ≤ last.2.reached := by
  have hkept := foldlM_captureStep_keeps (I := fun rest current => current.2.Tiled ∧
    ∀ entry ∈ entries, entry.2.inner.isSome → ∀ around, found.HasText entry.1 around →
      entry ∈ rest ∨ around.stop ≤ current.2.reached)
    ?_ ⟨htiled, fun entry hentry _ _ _ => Or.inl hentry⟩ h
  · obtain ⟨hlast, hscanned⟩ := hkept
    refine ⟨hlast, fun entry hentry hinner around haround => ?_⟩
    exact (hscanned entry hentry hinner around haround).resolve_left List.not_mem_nil
  · rintro entry rest current next ⟨hcurrent, hscanned⟩ hmove
    refine ⟨hmove.tiled hscanner hcurrent, fun other hother hinner around haround => ?_⟩
    rcases hscanned other hother hinner around haround with hahead | hbehind
    · rcases List.mem_cons.1 hahead with rfl | hlater
      · exact Or.inr (hmove.stop_le_reached hscanner hinside hcurrent hinner haround)
      · exact Or.inl hlater
    · exact Or.inr (Nat.le_trans hbehind (hmove.le_reached hscanner hcurrent))

/-! ## Scopes between -/

/-- Groups around a text add no scopes when those without patterns add none and none of the others
is around it. -/
theorem GroupRules.scopesAround_eq_nil
    (hplain : captures.plain.scopesAround text found span.liesIn = [])
    (hscanned : ∀ entry ∈ captures, entry.2.inner.isSome →
      ∀ around, found.span? entry.1 = some around → span.liesIn around = false) :
    captures.scopesAround text found span.liesIn = [] := by
  rw [scopesAround, List.flatMap_eq_nil_iff] at hplain ⊢
  intro entry hentry
  cases hinner : entry.2.inner with
  | none => exact hplain entry (mem_plain.2 ⟨hentry, hinner⟩)
  | some container =>
      exact groupScopes_eq_nil (hscanned entry hentry (by rw [hinner]; rfl))

/-- What is emitted in the text of a group has the scopes of its name behind those outside. -/
theorem innerScan_under_name (container : RuleIndex) (base : List String) (rule : GroupRule)
    (text : Array Char) (found : Found) (atTextStart : Bool) (start : Nat) (out : Emitted) :
    (innerScan container base rule text found atTextStart start out : Scan ρ).stack.Under
      (withName base (rule.name.map fun t => t.fill text found)) := by
  intro f hf
  obtain rfl := List.mem_singleton.1 hf
  exact ⟨List.prefix_refl _, prefix_withName _ _⟩

/-- The scan of the text of a group emits tokens with the scopes outside the match and those of the
name of the group in front.  If the groups around it that have no patterns add no scopes, the scopes
of all named groups around it stand between them, the outermost first. -/
theorem Grammar.inner_tokens_extend (hengine : engine.StaysInside) {depth : Nat}
    (hnested : found.Nested) (hinside : found.whole.stop ≤ text.size)
    (hascending : captures.Ascending) {before : Emitted} (htiled : before.Tiled) {s s' : Scan ρ}
    (hscans : ScansText (g.scan engine depth) text atTextStart base captures found before number
      rule span s)
    (hscan : g.scan engine depth (text.extract 0 span.stop) s = .ok s') :
    ∃ fresh, s'.emitted.tokens = fresh ++ s.emitted.tokens ∧
      let name := rule.name.map fun t => t.fill text found
      (∀ t ∈ fresh, withName base name <+: t.scopes) ∧
      ((captures.below number).plain.scopesAround text found span.liesIn = [] →
        ∀ t ∈ fresh, withName (base ++ (captures.below number).scopesAround text found span.liesIn)
          name <+: t.scopes) := by
  obtain ⟨done, rest, state, container, hreach, hdone, htext, _, rfl⟩ := hscans
  obtain ⟨fresh, htokens, hfresh⟩ :=
    (scan_extends (innerScan_under_name container base rule text found _ _ _) hscan).1
  refine ⟨fresh, htokens, hfresh, fun hplain t ht => ?_⟩
  have hfills := scan_fills (g := g) hengine depth
  have htexts : ∀ span ∈ found.texts, span.stop ≤ text.size := fun span hspan =>
    Nat.le_trans (hnested.inside span hspan).2.2 hinside
  obtain ⟨hstate, hscanned⟩ := foldlM_captureStep_scanned hfills htexts htiled hdone
  -- A token is emitted, so no group with patterns has reached the end of the text before.
  have hopen : (arriveAt base span.start state).2.reached < span.stop := by
    obtain ⟨hafter, hreached⟩ := scanned_reached hfills htexts htext
      (arriveAt_tiled base span.start hstate) hscan
    have hall : Tiles (fresh ++ (arriveAt base span.start state).2.tokens) s'.emitted.reached :=
      htokens ▸ (hafter : Tiles _ _)
    have hpos := (hall.stop_le t (List.mem_append_left _ ht)).1
    have hmore := (hall.exists_behind_iff (arriveAt_tiled base span.start hstate)).1
      ⟨t, ht, Nat.zero_lt_of_lt hpos⟩
    have hreached : s'.emitted.reached =
      max (arriveAt base span.start state).2.reached span.stop := hreached
    omega
  have hnone : (captures.below number).scopesAround text found span.liesIn = [] := by
    refine GroupRules.scopesAround_eq_nil hplain fun entry hentry hinner around haround => ?_
    refine Bool.eq_false_iff.2 fun hlies => ?_
    obtain ⟨hstart, hstop⟩ := Span.liesIn_iff.1 hlies
    have hle := (hnested.inside span htext.mem_texts).2.1
    have hne := htext.ne
    have haround : found.HasText entry.1 around := ⟨haround, by omega⟩
    have hbefore := hscanned entry (mem_done_of_mem_below hascending hreach hentry) hinner around
      haround
    have harrive := le_reached_arriveAt base span.start state
    omega
  rw [hnone, List.append_nil]
  exact hfresh t ht

/-! ## A scanned group in a named one -/

namespace Sample

/-- A match of two characters, which are group 1; group 2 is the first of them. -/
def stacked : Found := ⟨⟨0, 2⟩, [some ⟨0, 2⟩, some ⟨0, 1⟩]⟩

theorem stacked_nested : stacked.Nested where
  inside := by decide
  ordered := by decide
  nested := by decide

/-- Rules for these groups, of which the first one may have a name; the text of group 2 is scanned
with the container 2. -/
def stackedRules (outer : Option Template) : GroupRules :=
  [(1, ⟨outer, none, none⟩), (2, ⟨some ⟨"inner"⟩, none, some 2⟩)]

theorem stackedRules_ascending (outer : Option Template) : (stackedRules outer).Ascending := by
  simp [GroupRules.Ascending, stackedRules]

/-- The scan of the text of group 2. -/
def stackedScan (ρ : Type) (text : Array Char) : Scan ρ :=
  innerScan 2 ["s"] ⟨some ⟨"inner"⟩, none, some 2⟩ text stacked true 0 .none

theorem stackedScan_scans (scanner : Scanner ρ) (text : Array Char) (outer : Option Template) :
    ScansText scanner text true ["s"] (stackedRules outer) stacked .none 2
      ⟨some ⟨"inner"⟩, none, some 2⟩ ⟨0, 1⟩ (stackedScan ρ text) := by
  cases outer with
  | none => exact ⟨[_], [], _, 2, rfl, rfl, ⟨rfl, by decide⟩, rfl, rfl⟩
  | some name => exact ⟨[_], [], _, 2, rfl, rfl, ⟨rfl, by decide⟩, rfl, rfl⟩

/-- Its rule matches two characters, and scans the first of them for `a`. -/
def stackedGrammar : Grammar Regex where
  scopeName := "s"
  rules :=
    let pattern := Pattern.ofSource Regex.engine
    #[⟨none, none, .container [1]⟩,
      ⟨none, none, .single (pattern "((a)b)") (stackedRules (some ⟨"outer"⟩))⟩,
      ⟨none, none, .container [3]⟩,
      ⟨some ⟨"x"⟩, none, .single (pattern "a") []⟩]
  root := 0
  entries := #[[1], [], [3], []]

end Sample

namespace Grammar

/-- The group around the scanned one has no name. -/
theorem sample_inner_tokens_extend :
    RegexEngine.literal.StaysInside ∧ Sample.stacked.Nested ∧
    Sample.stacked.whole.stop ≤ (lineText "<b").size ∧ (Sample.stackedRules none).Ascending ∧
    Emitted.none.Tiled ∧
    ScansText (Sample.grammar.scan .literal 1) (lineText "<b") true ["s"]
      (Sample.stackedRules none) Sample.stacked .none 2 ⟨some ⟨"inner"⟩, none, some 2⟩ ⟨0, 1⟩
      (Sample.stackedScan _ (lineText "<b")) ∧
    ∃ s', Sample.grammar.scan .literal 1 ((lineText "<b").extract 0 1)
        (Sample.stackedScan _ (lineText "<b")) = .ok s' ∧
      s'.emitted.tokens = [⟨0, 1, ["s", "inner", "lt"]⟩] ∧
      ((Sample.stackedRules none).below 2).plain.scopesAround (lineText "<b") Sample.stacked
        (Span.liesIn ⟨0, 1⟩) = [] ∧
      ∃ fresh, s'.emitted.tokens = fresh ++ [] ∧
        ∀ t ∈ fresh, ["s", "inner"] <+: t.scopes := by
  have hinside : Sample.stacked.whole.stop ≤ (lineText "<b").size := by decide
  have hscans := Sample.stackedScan_scans (Sample.grammar.scan .literal 1) (lineText "<b") none
  have hscan : Sample.grammar.scan .literal 1 ((lineText "<b").extract 0 1)
      (Sample.stackedScan _ (lineText "<b")) =
        .ok ⟨⟨1, none, false⟩, (Sample.stackedScan _ (lineText "<b")).stack,
          ⟨[⟨0, 1, ["s", "inner", "lt"]⟩], 1⟩⟩ := by
    cbv
  have hplain : ((Sample.stackedRules none).below 2).plain.scopesAround (lineText "<b")
      Sample.stacked (Span.liesIn ⟨0, 1⟩) = [] := by
    rfl
  obtain ⟨fresh, htokens, _, hfresh⟩ := inner_tokens_extend RegexEngine.literal_staysInside
    Sample.stacked_nested hinside (Sample.stackedRules_ascending none)
    Emitted.tiled_none hscans hscan
  exact ⟨RegexEngine.literal_staysInside, Sample.stacked_nested, hinside,
    Sample.stackedRules_ascending none, Emitted.tiled_none, hscans, _, hscan, rfl, hplain, fresh,
    htokens, hfresh hplain⟩

/-- The token of the first character lacks the scope of the group around it, which the token of the
second one has. -/
theorem inner_tokens_lack_enclosing :
    Sample.stackedGrammar.next Regex.engine (lineText "ab") ⟨0, none, true⟩
        (Stack.root 0 "s").top = .ok (some (.rule 1, Sample.stacked)) ∧
    Sample.stacked.Nested ∧
    ScansText (Sample.stackedGrammar.scan Regex.engine 1) (lineText "ab") true ["s"]
      (Sample.stackedGrammar.rule 1).entryCaptures Sample.stacked .none 2
      ⟨some ⟨"inner"⟩, none, some 2⟩ ⟨0, 1⟩ (Sample.stackedScan _ (lineText "ab")) ∧
    (∃ s', Sample.stackedGrammar.scan Regex.engine 1 ((lineText "ab").extract 0 1)
        (Sample.stackedScan _ (lineText "ab")) = .ok s' ∧
      ¬ ∀ t ∈ s'.emitted.tokens, ["s"] ++
        ((Sample.stackedGrammar.rule 1).entryCaptures.below 2).scopesAround (lineText "ab")
          Sample.stacked (Span.liesIn ⟨0, 1⟩) <+: t.scopes) ∧
    (Sample.stackedGrammar.tokenize Regex.engine "ab" .initial).toOption.map LineResult.tokens =
      some [⟨0, 1, ["s", "inner", "x"]⟩, ⟨1, 2, ["s", "outer"]⟩] := by
  have hscan : (Sample.stackedGrammar.scan Regex.engine 1 ((lineText "ab").extract 0 1)
      (Sample.stackedScan _ (lineText "ab"))).toOption.map (·.emitted.tokens) =
        some [⟨0, 1, ["s", "inner", "x"]⟩] := by
    decide +kernel
  obtain ⟨s', hs', htokens⟩ := Option.map_eq_some_iff.1 hscan
  refine ⟨by decide +kernel, Sample.stacked_nested,
    Sample.stackedScan_scans _ (lineText "ab") (some ⟨"outer"⟩), ⟨s', ?_, ?_⟩, by decide +kernel⟩
  · cases hresult : Sample.stackedGrammar.scan Regex.engine 1 ((lineText "ab").extract 0 1)
        (Sample.stackedScan _ (lineText "ab")) with
    | error e => simp [hresult, Except.toOption] at hs'
    | ok s => simpa [hresult, Except.toOption] using hs'
  · intro hall
    have hfirst := hall _ (htokens ▸ List.mem_singleton_self _)
    revert hfirst
    decide

end Grammar

end ScopeCheck
