import ScopeCheck.Proofs.Line.Layers

/-!
# Tokens have the scopes of the rules around them

What is emitted inside an open rule has the scopes of that rule in front of its own.
`Emitted.Extends` is the relation between the tokens before and after; it is kept by captures, by
steps and by the scans inside them.

* `Grammar.scan_extends`: scopes that all frames of a stack go on from are in front of every token
  of a scan;
* `Grammar.Move.emitsNested`: the tokens of one step have the scopes of all open rules, but for the
  two ways in which a step leaves the innermost one.
-/

namespace ScopeCheck

variable {ρ : Type} {engine : RegexEngine ρ} {g : Grammar ρ} {scanner : Scanner ρ}
  {text : Array Char} {state : LineState ρ} {s : Scan ρ} {base : List String}

namespace Emitted

/-- Tokens have been added, all of them with these scopes in front. -/
def Extends (base : List String) (before after : Emitted) : Prop :=
  ∃ fresh, after.tokens = fresh ++ before.tokens ∧ ∀ t ∈ fresh, base <+: t.scopes

theorem Extends.refl (base : List String) (e : Emitted) : Extends base e e :=
  ⟨[], rfl, fun _ h => by cases h⟩

theorem Extends.trans {e e' e'' : Emitted} (h : Extends base e e') (h' : Extends base e' e'') :
    Extends base e e'' := by
  obtain ⟨fresh, htokens, hfresh⟩ := h
  obtain ⟨later, htokens', hlater⟩ := h'
  refine ⟨later ++ fresh, ?_, ?_⟩
  · rw [htokens', htokens, List.append_assoc]
  · intro t ht
    rcases List.mem_append.1 ht with ht | ht
    · exact hlater t ht
    · exact hfresh t ht

theorem Extends.mono {e e' : Emitted} {outer : List String} (hbase : outer <+: base)
    (h : Extends base e e') : Extends outer e e' := by
  obtain ⟨fresh, htokens, hfresh⟩ := h
  exact ⟨fresh, htokens, fun t ht => hbase.trans (hfresh t ht)⟩

theorem extends_upTo (e : Emitted) {scopes : List String} (hscopes : base <+: scopes) (stop : Nat) :
    Extends base e (e.upTo scopes stop) := by
  unfold Emitted.upTo
  split
  · exact Extends.refl base e
  · refine ⟨[⟨e.reached, stop, scopes⟩], rfl, ?_⟩
    intro t ht
    obtain rfl := List.mem_singleton.1 ht
    exact hscopes

/-- The tokens of a line have scopes that emitted tokens have, or those of plain text. -/
theorem mem_toTokens {e : Emitted} {length : Nat} {scopes : List String} {t : Token}
    (h : t ∈ e.toTokens length scopes) :
    t.scopes = scopes ∨ ∃ t' ∈ e.tokens, t.scopes = t'.scopes := by
  obtain ⟨tokens, reached⟩ := e
  have hkept : ∀ kept : List Token, kept ⊆ tokens →
      t ∈ ((if kept = [] then [⟨0, length + 1, scopes⟩] else kept).reverse.map fun t =>
        { t with stop := min t.stop length }) →
      t.scopes = scopes ∨ ∃ t' ∈ tokens, t.scopes = t'.scopes := by
    intro kept hkept hmem
    obtain ⟨t', ht', rfl⟩ := List.mem_map.1 hmem
    have ht' := List.mem_reverse.1 ht'
    split at ht'
    · obtain rfl := List.mem_singleton.1 ht'
      exact Or.inl rfl
    · exact Or.inr ⟨t', hkept ht', rfl⟩
  refine hkept _ ?_ h
  cases tokens with
  | nil => exact List.Subset.refl []
  | cons latest earlier =>
      show (if latest.start = length then earlier else latest :: earlier) ⊆ latest :: earlier
      split
      · exact List.subset_cons_self latest earlier
      · exact List.Subset.refl _

end Emitted

/-! ## Scans -/

/-- All frames of a stack have scopes that go on from `base`. -/
def Stack.Under (base : List String) (stack : Stack ρ) : Prop :=
  ∀ f ∈ stack.frames, base <+: f.matchScopes ∧ base <+: f.bodyScopes

/-- What is emitted by a scan has the scopes that the frames of its stack go on from. -/
def Scanner.KeepsScopes (scanner : Scanner ρ) : Prop :=
  ∀ base text s s', s.stack.Under base → scanner text s = .ok s' →
    s.emitted.Extends base s'.emitted

theorem innerScan_under (container : RuleIndex) (rule : GroupRule) (text : Array Char)
    (found : Found) (atTextStart : Bool) (start : Nat) (out : Emitted) :
    (innerScan container base rule text found atTextStart start out : Scan ρ).stack.Under base := by
  intro f hf
  obtain rfl := List.mem_singleton.1 hf
  have hmatch : base <+: withName base (rule.name.map fun t => t.fill text found) :=
    prefix_withName _ _
  exact ⟨hmatch, hmatch.trans (prefix_withName _ _)⟩

/-- The tokens of captures have the scopes outside in front. -/
theorem captureScopes_extends (hscanner : scanner.KeepsScopes) {atTextStart : Bool}
    {captures : GroupRules} {found : Found} {before after : Emitted}
    (h : captureScopes scanner text atTextStart base found captures [] before = .ok after) :
    before.Extends base after := by
  have hnone : OpenGroups.From base found [] := by
    intro group hgroup
    cases hgroup
  refine captureScopes_preserves ?_ ?_ h hnone (Emitted.Extends.refl base before)
  · intro out scopes pos hout hscopes _
    exact hout.trans (Emitted.extends_upTo out hscopes pos)
  · intro number rule container span out s _ _ _ hout hs
    exact hout.trans (hscanner base _ _ s (innerScan_under _ _ _ _ _ _ _) hs)

theorem Covers.keepsScopes (hscanner : scanner.KeepsScopes) {atTextStart : Bool}
    {captures : GroupRules} {found : Found} {before after : Emitted}
    (hcover : Covers scanner text atTextStart base captures found before after) :
    before.Extends base after := by
  obtain ⟨covered, hcovered, rfl⟩ := hcover
  exact (captureScopes_extends hscanner hcovered).trans
    (Emitted.extends_upTo covered (List.prefix_refl base) _)

/-- A match and the text before it add tokens with the scopes that both have in front. -/
theorem Covers.extends (hscanner : scanner.KeepsScopes) {atTextStart : Bool}
    {outer scopes : List String} {captures : GroupRules} {found : Found} {before after : Emitted}
    (hscopes : outer <+: scopes) (hbase : outer <+: base)
    (hcover : Covers scanner text atTextStart base captures found
      (before.upTo scopes found.whole.start) after) : before.Extends outer after :=
  (Emitted.extends_upTo before hscopes _).trans ((hcover.keepsScopes hscanner).mono hbase)

namespace Grammar

theorem prefix_matchScopes (g : Grammar ρ) (text : Array Char) (id : RuleIndex) (found : Found)
    (stack : Stack ρ) :
    stack.bodyScopes <+: g.matchScopes text id found stack :=
  prefix_withName _ _

theorem frameOf_under {id : RuleIndex} {closing : Pattern ρ} {found : Found}
    (hbody : base <+: s.stack.bodyScopes) :
    base <+: (g.frameOf engine text id closing found s).matchScopes ∧
      base <+: (g.frameOf engine text id closing found s).bodyScopes := by
  have hmatch := hbody.trans (g.prefix_matchScopes text id found s.stack)
  exact ⟨hmatch, hmatch.trans (prefix_withName _ _)⟩

/-- The scopes that all frames go on from stay in front of everything. -/
theorem Move.extends (hscanner : scanner.KeepsScopes) {r : ScanStep ρ}
    (hmove : g.Move engine scanner text s r) (hs : s.stack.Under base) :
    s.emitted.Extends base r.scan.emitted ∧ r.scan.stack.Under base := by
  obtain ⟨hmatch, hbody⟩ := hs s.stack.top List.mem_cons_self
  have hpop : s.stack.pop.Under base := fun f hf => hs f ((pop_frames s.stack).subset hf)
  have hend : ∀ {found out}, g.CoversEnd engine scanner text s found out →
      s.emitted.Extends base out := fun hcover => hcover.2.extends hscanner hbody hmatch
  have hrule : ∀ {id found out}, g.CoversRule engine scanner text s id found out →
      s.emitted.Extends base out := fun hcover =>
    hcover.2.extends hscanner hbody (hbody.trans (prefix_matchScopes _ _ _ _ _))
  cases hmove with
  | noMatch => exact ⟨Emitted.extends_upTo _ hbody _, hs⟩
  | leave hcover => exact ⟨hend hcover, hpop⟩
  | emptyRegion hcover => exact ⟨(hend hcover).trans (Emitted.extends_upTo _ hbody _), hs⟩
  | single _ hcover => exact ⟨hrule hcover, hs⟩
  | emptyMatch _ hcover =>
      have hplain : base <+: s.stack.pop.bodyScopes := (hpop s.stack.pop.top List.mem_cons_self).2
      exact ⟨(hrule hcover).trans (Emitted.extends_upTo _ hplain _), hpop⟩
  | enter _ hcover =>
      refine ⟨hrule hcover, ?_⟩
      intro f hf
      rcases List.mem_cons.1 hf with rfl | hf
      · exact frameOf_under hbody
      · exact hs f hf
  | entered _ hcover => exact ⟨(hrule hcover).trans (Emitted.extends_upTo _ hbody _), hs⟩
  | container =>
      exact ⟨(Emitted.extends_upTo _ hbody _).trans (Emitted.extends_upTo _ hbody _), hs⟩

theorem scan_extends {depth : Nat} {s' : Scan ρ} (hs : s.stack.Under base)
    (h : g.scan engine depth text s = .ok s') :
    s.emitted.Extends base s'.emitted ∧ s'.stack.Under base := by
  have hrelates := scan_relates engine g (fun _ _ => True)
    (fun _ s s' => ∀ base, s.stack.Under base →
      s.emitted.Extends base s'.emitted ∧ s'.stack.Under base)
    (fun hst htu base hs => ⟨(hst base hs).1.trans (htu base (hst base hs).2).1,
      (htu base (hst base hs).2).2⟩)
    (fun hinner _ hstep => ⟨fun base hs => (step_move hstep).extends
      (fun base text s s' hs h => (hinner trivial h base hs).1) hs, trivial⟩) trivial h
  exact hrelates.1 base hs

/-! ## Steps -/

/-- The frames around a frame have scopes that its match goes on from. -/
theorem Layers.below_prefix {top : Frame ρ} {below : List (Frame ρ)}
    (h : g.Layers engine (top :: below)) : ∀ f ∈ below, f.bodyScopes <+: top.matchScopes := by
  induction below generalizing top with
  | nil =>
      intro f hf
      cases hf
  | cons next rest ih =>
      have hnext : next.bodyScopes <+: top.matchScopes :=
        (List.isChain_cons_cons.1 h.nested).1.isPrefix
      have hbelow : g.Layers engine (next :: rest) := h.suffix (List.suffix_cons top _)
      have hbody : next.matchScopes <+: next.bodyScopes :=
        (hbelow.bodies next List.mem_cons_self).isPrefix
      intro f hf
      rcases List.mem_cons.1 hf with rfl | hf
      · exact hnext
      · exact ((ih hbelow f hf).trans hbody).trans hnext

/-- The step is a match of the end of the innermost rule. -/
def MatchesEnd (engine : RegexEngine ρ) (g : Grammar ρ) (text : Array Char) (s : Scan ρ) : Prop :=
  ∃ found, g.next engine text s.point s.stack.top = .ok (some (.last, found))

/-- The latest of the tokens of a step, when it covers the rest of the text behind an empty match of
a rule without a region. -/
def IsRestOfEmptyMatch (engine : RegexEngine ρ) (g : Grammar ρ) (text : Array Char) (s : Scan ρ)
    (fresh : List Token) (t : Token) : Prop :=
  fresh.head? = some t ∧ t.stop = text.size ∧ t.scopes = s.stack.pop.bodyScopes ∧
    ∃ id found pattern captures,
      g.next engine text s.point s.stack.top = .ok (some (.rule id, found)) ∧
        (g.rule id).form = .single pattern captures ∧ found.whole.stop ≤ s.point.pos

/-- The scopes of a token among the tokens of a step go on from those of the open rules. -/
structure EmitsNested (engine : RegexEngine ρ) (g : Grammar ρ) (text : Array Char) (s : Scan ρ)
    (fresh : List Token) (t : Token) : Prop where
  below : ∀ f ∈ s.stack.below, f.bodyScopes <+: t.scopes
  atEnd : g.MatchesEnd engine text s → s.stack.top.matchScopes <+: t.scopes
  inside : ¬ g.MatchesEnd engine text s → s.stack.top.bodyScopes <+: t.scopes ∨
    g.IsRestOfEmptyMatch engine text s fresh t

/-- Tokens with the scopes of the innermost rule have those of all open rules. -/
theorem EmitsNested.ofBody (hlayers : g.Layers engine s.stack.frames) {fresh : List Token}
    {t : Token} (h : s.stack.top.bodyScopes <+: t.scopes) :
    g.EmitsNested engine text s fresh t := by
  have hbody : s.stack.top.matchScopes <+: s.stack.top.bodyScopes :=
    (hlayers.bodies s.stack.top List.mem_cons_self).isPrefix
  exact ⟨fun f hf => ((hlayers.below_prefix f hf).trans hbody).trans h,
    fun _ => hbody.trans h, fun _ => Or.inl h⟩

/-- At an end the scopes of the match are enough. -/
theorem EmitsNested.ofEnd (hlayers : g.Layers engine s.stack.frames) {fresh : List Token}
    {t : Token} (hend : g.MatchesEnd engine text s) (h : s.stack.top.matchScopes <+: t.scopes) :
    g.EmitsNested engine text s fresh t :=
  ⟨fun f hf => (hlayers.below_prefix f hf).trans h, fun _ => h, fun hno => absurd hend hno⟩

/-- The rules around the innermost one are open behind it as well. -/
theorem Layers.below_prefix_pop (hlayers : g.Layers engine s.stack.frames) :
    ∀ f ∈ s.stack.below, f.bodyScopes <+: s.stack.pop.bodyScopes := by
  obtain ⟨point, ⟨top, below⟩, emitted⟩ := s
  intro f hf
  cases below with
  | nil => cases hf
  | cons next rest =>
      have hbelow : g.Layers engine (next :: rest) := hlayers.suffix (List.suffix_cons top _)
      rcases List.mem_cons.1 hf with rfl | hf
      · exact List.prefix_refl _
      · exact (hbelow.below_prefix f hf).trans (hbelow.bodies next List.mem_cons_self).isPrefix

/-- The tokens of a step have the scopes of the open rules. -/
theorem Move.emitsNested (hscanner : scanner.KeepsScopes)
    (hlayers : g.Layers engine s.stack.frames) {r : ScanStep ρ}
    (hmove : g.Move engine scanner text s r) :
    ∃ fresh, r.scan.emitted.tokens = fresh ++ s.emitted.tokens ∧
      ∀ t ∈ fresh, g.EmitsNested engine text s fresh t := by
  have hbody : s.stack.top.matchScopes <+: s.stack.top.bodyScopes :=
    (hlayers.bodies s.stack.top List.mem_cons_self).isPrefix
  have hplain : ∀ {out}, s.emitted.Extends s.stack.top.bodyScopes out →
      ∃ fresh, out.tokens = fresh ++ s.emitted.tokens ∧
        ∀ t ∈ fresh, g.EmitsNested engine text s fresh t := by
    intro out hout
    obtain ⟨fresh, htokens, hfresh⟩ := hout
    exact ⟨fresh, htokens, fun t ht => .ofBody hlayers (hfresh t ht)⟩
  have hended : ∀ {found out}, g.CoversEnd engine scanner text s found out →
      ∀ {after}, out.Extends s.stack.top.bodyScopes after →
      ∃ fresh, after.tokens = fresh ++ s.emitted.tokens ∧
        ∀ t ∈ fresh, g.EmitsNested engine text s fresh t := by
    intro found out hcover after hafter
    have hout := hcover.2.extends hscanner hbody (List.prefix_refl _)
    obtain ⟨fresh, htokens, hfresh⟩ := hout.trans (hafter.mono hbody)
    exact ⟨fresh, htokens, fun t ht => .ofEnd hlayers ⟨found, hcover.1⟩ (hfresh t ht)⟩
  have hrule : ∀ {id found out}, g.CoversRule engine scanner text s id found out →
      s.emitted.Extends s.stack.top.bodyScopes out := fun hcover =>
    hcover.2.extends hscanner (List.prefix_refl _) (prefix_matchScopes _ _ _ _ _)
  have hrest : ∀ e : Emitted, e.Extends s.stack.top.bodyScopes
      (e.upTo s.stack.top.bodyScopes text.size) := fun e =>
    Emitted.extends_upTo e (List.prefix_refl _) _
  cases hmove with
  | noMatch => exact hplain (hrest _)
  | leave hcover => exact hended hcover (Emitted.Extends.refl _ _)
  | emptyRegion hcover => exact hended hcover (hrest _)
  | single _ hcover => exact hplain (hrule hcover)
  | @emptyMatch id found out pattern captures hform hcover hguard =>
      obtain ⟨fresh, htokens, hfresh⟩ := hrule hcover
      show ∃ fresh, (out.upTo s.stack.pop.bodyScopes text.size).tokens = _ ∧ _
      unfold Emitted.upTo
      split
      · exact ⟨fresh, htokens, fun t ht => .ofBody hlayers (hfresh t ht)⟩
      · refine ⟨_ :: fresh, congrArg _ htokens, ?_⟩
        intro t ht
        rcases List.mem_cons.1 ht with rfl | ht
        · -- The rest of the text has the scopes of the rule around the innermost one.
          refine ⟨hlayers.below_prefix_pop, ?_, fun _ => Or.inr ?_⟩
          · rintro ⟨found', hend⟩
            rw [hcover.1] at hend
            cases hend
          · exact ⟨rfl, rfl, rfl, id, found, pattern, captures, hcover.1, hform, hguard⟩
        · exact .ofBody hlayers (hfresh t ht)
  | enter _ hcover => exact hplain (hrule hcover)
  | entered _ hcover => exact hplain ((hrule hcover).trans (hrest _))
  | container =>
      exact hplain ((Emitted.extends_upTo _ (List.prefix_refl _) _).trans (hrest _))

/-! ## Lines -/

theorem scan_keepsScopes (depth : Nat) : Scanner.KeepsScopes (g.scan engine depth) :=
  fun _ _ _ _ hs h => (scan_extends hs h).1

/-- The scope of the grammar is in front of all scopes of a stack with which a line starts. -/
theorem Reachable.lineStack_under (hloaded : g.Loaded engine) (hstate : g.Reachable engine state) :
    (g.lineStack state).Under [g.scopeName] := by
  have hlayers := hstate.layers hloaded
  intro f hf
  have hmatch := hlayers.grows_bottom (hstate.keeps_lineStack root_invariant) f hf
  exact ⟨hmatch.isPrefix, (hmatch.trans (hlayers.bodies f hf)).isPrefix⟩

theorem lineStart_extends (hscanner : scanner.KeepsScopes) (hstack : (g.lineStack state).Under base)
    (h : g.lineStart engine scanner text state = .ok s) :
    Emitted.none.Extends base s.emitted ∧ s.stack.Under base := by
  refine ⟨?_, fun f hf => hstack f ((lineStart_frames h).subset hf)⟩
  refine lineStart_preserves ?_ h (Emitted.Extends.refl _ _)
  intro frame hframe _ captures point found before after _ _ hcover hbefore
  have hbody := (hstack frame hframe).2
  exact hbefore.trans (hcover.extends hscanner hbody hbody)

/-- The tokens of every step go on from the scopes of the open rules, in a line and in captured
text, and so the tokens of every line start with the scope of the grammar. -/
theorem Reachable.steps_emit_nested (hloaded : g.Loaded engine)
    (hstate : g.Reachable engine state) :
    (∀ bound line depth text s r, g.Visits engine bound line state (depth + 1) text s →
      g.step engine (g.scan engine depth) text s = .ok r →
        ∃ fresh, r.scan.emitted.tokens = fresh ++ s.emitted.tokens ∧
          ∀ t ∈ fresh, g.EmitsNested engine text s fresh t) ∧
    (∀ line result, g.tokenize engine line state = .ok result →
      ∀ t ∈ result.tokens, t.scopes.head? = some g.scopeName) := by
  constructor
  · intro bound line depth text s r hvisits hstep
    have hlayers := hvisits.layers hloaded hstate
    exact (step_move hstep).emitsNested (scan_keepsScopes depth) hlayers
  · intro line result hline t ht
    obtain ⟨s, hscan, _, htokens⟩ := tokenize_eq_ok hline
    obtain ⟨start, hstart, hrun⟩ := scanLine_eq_ok hscan
    obtain ⟨hconditions, hunder⟩ := lineStart_extends (scan_keepsScopes _)
      (hstate.lineStack_under hloaded) hstart
    obtain ⟨hscanned, hunder⟩ := scan_extends hunder hrun
    obtain ⟨fresh, hemitted, hfresh⟩ := hconditions.trans hscanned
    have hprefix : [g.scopeName] <+: t.scopes := by
      rw [htokens] at ht
      obtain ⟨t, hmem, rfl⟩ := List.mem_map.1 ht
      show [g.scopeName] <+: t.scopes
      rcases Emitted.mem_toTokens hmem with hscopes | ⟨t', ht', hscopes⟩
      · rw [hscopes]
        exact (hunder s.stack.top List.mem_cons_self).2
      · rw [hscopes]
        rw [hemitted] at ht'
        rcases List.mem_append.1 ht' with ht' | ht'
        · exact hfresh t' ht'
        · cases ht'
    obtain ⟨added, hadded⟩ := hprefix
    rw [← hadded]
    rfl

/-- The end of the region of the small grammar, with the tokens of its captures. -/
theorem Reachable.sample_steps_emit_nested :
    Sample.grammar.Loaded .literal ∧
    Sample.grammar.Reachable .literal (.inside Sample.opened) ∧
    Sample.grammar.Visits .literal 2 Sample.closingLine (.inside Sample.opened) 2
      Sample.closingLine Sample.start ∧
    ∃ r, Sample.grammar.step .literal (Sample.grammar.scan .literal 1) Sample.closingLine
        Sample.start = .ok r ∧
      r.scan.emitted.tokens =
        [⟨1, 2, ["s", "tag", "x", "cap"]⟩, ⟨0, 1, ["s", "tag", "x", "cap", "lt"]⟩] ∧
      ∀ t ∈ r.scan.emitted.tokens, Sample.grammar.EmitsNested .literal Sample.closingLine
        Sample.start r.scan.emitted.tokens t := by
  have hstep : Sample.grammar.step .literal (Sample.grammar.scan .literal 1) Sample.closingLine
      Sample.start = .ok (.next ⟨⟨2, none, false⟩, Stack.root 0 "s",
        ⟨[⟨1, 2, ["s", "tag", "x", "cap"]⟩, ⟨0, 1, ["s", "tag", "x", "cap", "lt"]⟩], 2⟩⟩) := by
    cbv
  obtain ⟨fresh, htokens, hfresh⟩ :=
    (Reachable.steps_emit_nested Sample.grammar_loaded Sample.opened_reachable).1
      2 Sample.closingLine 1 Sample.closingLine Sample.start _ Sample.start_visited hstep
  rw [show Sample.start.emitted.tokens = [] from rfl, List.append_nil] at htokens
  refine ⟨Sample.grammar_loaded, Sample.opened_reachable, Sample.start_visited, _, hstep, rfl, ?_⟩
  rw [htokens]
  exact hfresh

end Grammar

end ScopeCheck
