import Mathlib.Data.List.Chain
import ScopeCheck.Proofs.Line.Occurrence

/-!
# The layers of a stack

At the bottom of a stack is a container; every frame above it is a region that has been entered
where the frame below it was the innermost one.  `Grammar.Layers` says so, and
`Grammar.layers_invariant` that steps, line starts and the change of lines keep it.

What follows for the stacks between lines is `Stack.WellFormed`.  Patterns that quote a begin match
are only searched for with the quoted texts put in, which is `Pattern.IsSettled`.
-/

namespace ScopeCheck

open ScopeCheck.Text

variable {ρ : Type} {engine : RegexEngine ρ} {g : Grammar ρ}

/-! ## Scopes that go on from others -/

/-- A scope that is not empty and holds no blank. -/
def IsWord (scope : String) : Prop :=
  scope ≠ "" ∧ ∀ c ∈ scope.toList, isBlank c = false

/-- The scopes go on from others with words. -/
def Grows (base scopes : List String) : Prop :=
  ∃ added, scopes = base ++ added ∧ ∀ scope ∈ added, IsWord scope

theorem Grows.refl (scopes : List String) : Grows scopes scopes :=
  ⟨[], (List.append_nil scopes).symm, fun _ h => by cases h⟩

theorem Grows.trans {base middle scopes : List String} (hbase : Grows base middle)
    (hmiddle : Grows middle scopes) : Grows base scopes := by
  obtain ⟨first, rfl, hfirst⟩ := hbase
  obtain ⟨second, rfl, hsecond⟩ := hmiddle
  refine ⟨first ++ second, List.append_assoc base first second, ?_⟩
  intro scope hscope
  rcases List.mem_append.1 hscope with hscope | hscope
  · exact hfirst scope hscope
  · exact hsecond scope hscope

theorem Grows.isPrefix {base scopes : List String} (h : Grows base scopes) : base <+: scopes := by
  obtain ⟨added, rfl, _⟩ := h
  exact List.prefix_append base added

/-- Words are not empty and hold no blanks.  The word that is being read holds none either. -/
theorem wordsFrom_nonblank {current cs : List Char} (hcurrent : ∀ c ∈ current, isBlank c = false) :
    ∀ word ∈ wordsFrom current cs, word ≠ [] ∧ ∀ c ∈ word, isBlank c = false := by
  have hread : ∀ read : List Char, read ≠ [] → (∀ c ∈ read, isBlank c = false) →
      read.reverse ≠ [] ∧ ∀ c ∈ read.reverse, isBlank c = false := by
    intro read hne hread
    exact ⟨fun h => hne (List.reverse_eq_nil_iff.1 h), fun c hc => hread c (List.mem_reverse.1 hc)⟩
  induction cs generalizing current with
  | nil =>
      intro word hword
      rw [wordsFrom] at hword
      split at hword
      · cases hword
      · rename_i hne
        obtain rfl := List.mem_singleton.1 hword
        exact hread current hne hcurrent
  | cons c rest ih =>
      intro word hword
      have hnone : ∀ d ∈ ([] : List Char), isBlank d = false := by
        intro d hd
        cases hd
      rw [wordsFrom] at hword
      split at hword
      · split at hword
        · exact ih hnone word hword
        · rename_i hne
          rcases List.mem_cons.1 hword with rfl | hword
          · exact hread current hne hcurrent
          · exact ih hnone word hword
      · rename_i hblank
        refine ih ?_ word hword
        intro d hd
        rcases List.mem_cons.1 hd with rfl | hd
        · exact Bool.eq_false_iff.2 hblank
        · exact hcurrent d hd

/-- A name adds words. -/
theorem grows_withName (base : List String) (name : Option (List Char)) :
    Grows base (withName base name) := by
  cases name with
  | none => exact Grows.refl base
  | some name =>
      refine ⟨(words name).map String.ofList, rfl, ?_⟩
      intro scope hscope
      obtain ⟨word, hword, rfl⟩ := List.mem_map.1 hscope
      obtain ⟨hne, hblank⟩ := wordsFrom_nonblank (fun c hc => by cases hc) word hword
      refine ⟨fun hempty => hne ?_, fun c hc => hblank c ?_⟩
      · rw [← String.toList_ofList (l := word), hempty, String.toList_empty]
      · rw [← String.toList_ofList (l := word)]
        exact hc

/-! ## Patterns that quote a begin match -/

/-- What is searched for in place of a pattern: the pattern itself if it does not quote a begin
match, and else the pattern with the texts of some match put in. -/
def Pattern.IsSettled (engine : RegexEngine ρ) (closing searched : Pattern ρ) : Prop :=
  if closing.quotesBegin then ∃ text found, searched = closing.fill engine text found
  else searched = closing

theorem Grammar.filledLast_isSome {closing : Pattern ρ} {text : Array Char} {found : Found} :
    (Grammar.filledLast engine closing text found).isSome = closing.quotesBegin := by
  unfold Grammar.filledLast
  split
  · rename_i hquotes
    rw [hquotes]
    rfl
  · rename_i hquotes
    rw [Bool.eq_false_iff.2 hquotes]
    rfl

theorem Grammar.filledLast_isSettled (closing : Pattern ρ) (text : Array Char) (found : Found) :
    closing.IsSettled engine ((Grammar.filledLast engine closing text found).getD closing) := by
  unfold Pattern.IsSettled Grammar.filledLast
  split
  · rw [Option.getD_some]
    exact ⟨text, found, rfl⟩
  · rfl

/-! ## Layers -/

/-- A frame of a region that has been entered inside another frame. -/
structure Frame.Entered (engine : RegexEngine ρ) (g : Grammar ρ) (f below : Frame ρ) : Prop where
  filled : ∃ closing text found, (g.rule f.rule).closing? = some closing ∧
    f.filledLast = Grammar.filledLast engine closing text found
  match_grows : Grows below.bodyScopes f.matchScopes
  body_grows : Grows f.matchScopes f.bodyScopes

/-- A frame with which a stack starts. -/
structure Frame.AtBottom (g : Grammar ρ) (f : Frame ρ) : Prop where
  container : g.IsContainer f.rule
  filled : f.filledLast = none
  body_grows : Grows f.matchScopes f.bodyScopes

namespace Grammar

/-- A container, and on top of it regions, each entered inside the one below it. -/
inductive Layers (engine : RegexEngine ρ) (g : Grammar ρ) : List (Frame ρ) → Prop
  | bottom {f : Frame ρ} (hbottom : f.AtBottom g) : Layers engine g [f]
  | entered {f below : Frame ρ} {rest : List (Frame ρ)} (hentered : f.Entered engine g below)
      (hbelow : Layers engine g (below :: rest)) : Layers engine g (f :: below :: rest)

/-- The outer frames of layers are layers. -/
theorem Layers.suffix {frames : List (Frame ρ)} (h : g.Layers engine frames) {f : Frame ρ}
    {outer : List (Frame ρ)} (hsuffix : f :: outer <:+ frames) : g.Layers engine (f :: outer) := by
  induction h with
  | bottom hbottom =>
      obtain ⟨rfl, rfl⟩ : f = _ ∧ outer = [] := by simpa using hsuffix.eq_of_length_le (by simp)
      exact .bottom hbottom
  | entered hentered hbelow ih =>
      rcases List.suffix_cons_iff.1 hsuffix with heq | hsuffix
      · rw [heq]
        exact .entered hentered hbelow
      · exact ih hsuffix

theorem Layers.forNextLine {frames : List (Frame ρ)} (h : g.Layers engine frames) :
    g.Layers engine (frames.map Frame.forNextLine) := by
  induction h with
  | bottom hbottom => exact .bottom ⟨hbottom.container, hbottom.filled, hbottom.body_grows⟩
  | entered hentered hbelow ih =>
      exact .entered ⟨hentered.filled, hentered.match_grows, hentered.body_grows⟩ ih

theorem frameOf_entered {text : Array Char} {id : RuleIndex} {closing : Pattern ρ} {found : Found}
    {s : Scan ρ} (hclosing : (g.rule id).closing? = some closing) :
    (g.frameOf engine text id closing found s).Entered engine g s.stack.top where
  filled := ⟨closing, text, found, hclosing, rfl⟩
  match_grows := grows_withName _ _
  body_grows := grows_withName _ _

/-- Layers are kept where a line starts and by every step. -/
theorem layers_invariant (hcoherent : g.Coherent) :
    g.StackInvariant engine fun stack => g.Layers engine stack.frames where
  root := .bottom ⟨hcoherent.root_container, rfl, Grows.refl _⟩
  forNextLine := fun _ h => h.forNextLine
  outer := fun _ _ h hsuffix => h.suffix hsuffix
  enter := fun _ _ _ _ _ hclosing h => .entered (frameOf_entered hclosing) h

/-- Captured text is scanned with a container at the bottom. -/
theorem innerScan_layers {container : RuleIndex} (hcontainer : g.IsContainer container)
    (base : List String) (rule : GroupRule) (text : Array Char) (found : Found)
    (atTextStart : Bool) (start : Nat) (before : Emitted) :
    g.Layers engine
      (innerScan container base rule text found atTextStart start before : Scan ρ).stack.frames :=
  .bottom ⟨hcontainer, rfl, grows_withName _ _⟩

theorem Reachable.layers {state : LineState ρ} (hloaded : g.Loaded engine)
    (hstate : g.Reachable engine state) : g.Layers engine (g.lineStack state).frames :=
  hstate.keeps_lineStack (layers_invariant hloaded.coherent)

/-- The stacks of all scans of a line are layers. -/
theorem Visits.layers {state : LineState ρ} {bound depth : Nat} {line text : Array Char}
    {s : Scan ρ} (hloaded : g.Loaded engine) (hstate : g.Reachable engine state)
    (h : g.Visits engine bound line state depth text s) : g.Layers engine s.stack.frames :=
  h.keeps (layers_invariant hloaded.coherent) hloaded.coherent
    (fun _ base rule text found atTextStart start before hcontainer =>
      innerScan_layers hcontainer base rule text found atTextStart start before) hstate

end Grammar

/-! ## Stacks between lines -/

/-- What a line can rely on of the stack that it is given. -/
structure Stack.WellFormed (engine : RegexEngine ρ) (g : Grammar ρ) (stack : Stack ρ) : Prop where
  /-- At the bottom is the root with the scope of the grammar. -/
  bottom : ∃ bottom, stack.frames.getLast? = some bottom ∧ bottom.rule = g.root ∧
    bottom.matchScopes = [g.scopeName] ∧ bottom.bodyScopes = [g.scopeName]
  /-- All other frames are of rules that have an end or a condition. -/
  regions : ∀ f ∈ stack.frames.dropLast, (g.rule f.rule).closing?.isSome
  /-- Each frame has the scopes of the one below it. -/
  nested : stack.frames.IsChain fun f below => below.bodyScopes <+: f.matchScopes
  /-- The scopes of a body go on from those of the match. -/
  bodies : ∀ f ∈ stack.frames, f.matchScopes <+: f.bodyScopes
  /-- What is added to the scope of the grammar are words. -/
  words : ∀ f ∈ stack.frames, Grows [g.scopeName] f.matchScopes ∧ Grows [g.scopeName] f.bodyScopes
  /-- A pattern is kept where the rule has one that quotes its begin match. -/
  filled : ∀ f ∈ stack.frames, f.filledLast.isSome ↔
    ∃ closing, (g.rule f.rule).closing? = some closing ∧ closing.quotesBegin

namespace Grammar

theorem Layers.nested {frames : List (Frame ρ)} (h : g.Layers engine frames) :
    frames.IsChain fun f below => Grows below.bodyScopes f.matchScopes := by
  induction h with
  | bottom => exact .singleton _
  | entered hentered _ ih => exact .cons_cons hentered.match_grows ih

theorem Layers.bodies {frames : List (Frame ρ)} (h : g.Layers engine frames) :
    ∀ f ∈ frames, Grows f.matchScopes f.bodyScopes := by
  induction h with
  | bottom hbottom =>
      intro f hf
      obtain rfl := List.mem_singleton.1 hf
      exact hbottom.body_grows
  | entered hentered _ ih =>
      intro f hf
      rcases List.mem_cons.1 hf with rfl | hf
      · exact hentered.body_grows
      · exact ih f hf

theorem Layers.regions {frames : List (Frame ρ)} (h : g.Layers engine frames) :
    ∀ f ∈ frames.dropLast, (g.rule f.rule).closing?.isSome := by
  induction h with
  | bottom =>
      intro f hf
      cases hf
  | entered hentered _ ih =>
      intro f hf
      rw [List.dropLast_cons_cons] at hf
      rcases List.mem_cons.1 hf with rfl | hf
      · obtain ⟨closing, _, _, hclosing, _⟩ := hentered.filled
        rw [hclosing]
        rfl
      · exact ih f hf

/-- Every frame holds what it searches for in place of the pattern of its rule. -/
theorem Layers.filled {frames : List (Frame ρ)} (h : g.Layers engine frames) :
    ∀ f ∈ frames, match (g.rule f.rule).closing? with
      | none => f.filledLast = none
      | some closing => ∃ text found, f.filledLast = filledLast engine closing text found := by
  induction h with
  | bottom hbottom =>
      intro f hf
      obtain rfl := List.mem_singleton.1 hf
      rw [hbottom.container.closing?]
      exact hbottom.filled
  | entered hentered _ ih =>
      intro f hf
      rcases List.mem_cons.1 hf with rfl | hf
      · obtain ⟨closing, text, found, hclosing, hfilled⟩ := hentered.filled
        rw [hclosing]
        exact ⟨text, found, hfilled⟩
      · exact ih f hf

/-- The scopes of the bottom frame are at the start of all scopes. -/
theorem Layers.grows_bottom {frames : List (Frame ρ)} (h : g.Layers engine frames)
    {bottom : Frame ρ} (hlast : frames.getLast? = some bottom) :
    ∀ f ∈ frames, Grows bottom.matchScopes f.matchScopes := by
  induction h with
  | bottom =>
      intro f hf
      obtain rfl := List.mem_singleton.1 hf
      obtain rfl := Option.some.inj hlast
      exact Grows.refl _
  | @entered f below rest hentered hbelow ih =>
      intro f' hf'
      rw [List.getLast?_cons_cons] at hlast
      rcases List.mem_cons.1 hf' with rfl | hf'
      · have hbody := hbelow.bodies below List.mem_cons_self
        exact ((ih hlast below List.mem_cons_self).trans hbody).trans hentered.match_grows
      · exact ih hlast f' hf'

/-- The root is never left, so it is at the bottom of every stack between lines. -/
theorem root_invariant : g.StackInvariant engine fun stack =>
    stack.frames.getLast? = some (Stack.root g.root g.scopeName).top where
  root := rfl
  forNextLine := by
    intro stack hlast
    show (stack.frames.map Frame.forNextLine).getLast? = _
    rw [List.getLast?_map, hlast]
    rfl
  outer := by
    intro stack outer hlast hsuffix
    obtain ⟨inner, hframes⟩ := hsuffix
    have hne : outer.frames ≠ [] := List.cons_ne_nil _ _
    rw [← hframes, List.getLast?_append_of_ne_nil inner hne] at hlast
    exact hlast
  enter := by
    intro text id closing found s _ hlast
    rw [Stack.frames_push, Stack.frames, List.getLast?_cons_cons]
    exact hlast

theorem Layers.wellFormed {stack : Stack ρ} (h : g.Layers engine stack.frames)
    (hlast : stack.frames.getLast? = some (Stack.root g.root g.scopeName).top) :
    stack.WellFormed engine g where
  bottom := ⟨_, hlast, rfl, rfl, rfl⟩
  regions := h.regions
  nested := h.nested.imp fun _ _ hgrows => hgrows.isPrefix
  bodies := fun f hf => (h.bodies f hf).isPrefix
  words := by
    intro f hf
    have hmatch := h.grows_bottom hlast f hf
    exact ⟨hmatch, hmatch.trans (h.bodies f hf)⟩
  filled := by
    intro f hf
    have hfilled := h.filled f hf
    cases hclosing : (g.rule f.rule).closing? with
    | none =>
        rw [hclosing] at hfilled
        simp [hfilled]
    | some closing =>
        rw [hclosing] at hfilled
        obtain ⟨text, found, hfilled⟩ := hfilled
        rw [hfilled, filledLast_isSome]
        simp

/-- The pattern of a frame's rule that is searched for, as the end of a region or as the condition
of its next line. -/
def ClosingSearch (g : Grammar ρ) (f : Frame ρ) (searched : Pattern ρ) : Prop :=
  (Candidate.last, searched) ∈ g.candidates f ∨
    ∃ captures, g.condition? f = some (searched, captures)

/-- What is searched for is what the frame holds, or the pattern of the rule. -/
theorem ClosingSearch.eq_getD {f : Frame ρ} {searched : Pattern ρ}
    (h : g.ClosingSearch f searched) :
    ∃ closing, (g.rule f.rule).closing? = some closing ∧
      searched = f.filledLast.getD closing := by
  rcases h with hmem | ⟨captures, hcondition⟩
  · rcases mem_candidates hmem with ⟨id, _, hstart, _⟩ | ⟨_, hclosing⟩
    · cases hstart
    · exact hclosing
  · unfold condition? at hcondition
    split at hcondition
    · rename_i condition _ _ hform
      refine ⟨condition, by rw [Rule.closing?, hform], ?_⟩
      exact (Prod.mk.inj (Option.some.inj hcondition)).1.symm
    · cases hcondition

theorem Layers.closingSearch_isSettled {frames : List (Frame ρ)} (h : g.Layers engine frames)
    {f : Frame ρ} (hf : f ∈ frames) {searched : Pattern ρ} (hsearch : g.ClosingSearch f searched) :
    ∃ closing, (g.rule f.rule).closing? = some closing ∧ closing.IsSettled engine searched := by
  obtain ⟨closing, hclosing, rfl⟩ := hsearch.eq_getD
  have hfilled := h.filled f hf
  rw [hclosing] at hfilled
  obtain ⟨text, found, hfilled⟩ := hfilled
  rw [hfilled]
  exact ⟨closing, hclosing, filledLast_isSettled closing text found⟩

/-- Every line of a text leaves a stack on which the next one can rely, and wherever the end or the
condition of a rule is searched for, the texts that it quotes have been put in. -/
theorem Reachable.lines_leave_wellFormed {state : LineState ρ} (hloaded : g.Loaded engine)
    (hstate : g.Reachable engine state) :
    (∀ line result, g.tokenize engine line state = .ok result →
      ∃ stack, result.state = .inside stack ∧ stack.WellFormed engine g) ∧
    (∀ f ∈ (g.lineStack state).frames, ∀ searched, g.ClosingSearch f searched →
      ∃ closing, (g.rule f.rule).closing? = some closing ∧ closing.IsSettled engine searched) ∧
    (∀ bound line depth text s, g.Visits engine bound line state depth text s →
      ∀ f ∈ s.stack.frames, ∀ searched, g.ClosingSearch f searched →
        ∃ closing, (g.rule f.rule).closing? = some closing ∧
          closing.IsSettled engine searched) := by
  have hlayers : g.StackInvariant engine fun stack => g.Layers engine stack.frames :=
    layers_invariant hloaded.coherent
  refine ⟨?_, ?_, ?_⟩
  · intro line result hline
    have hnext : g.Reachable engine result.state := .line hstate hline
    obtain ⟨s, _, hresult, _⟩ := tokenize_eq_ok hline
    refine ⟨s.stack, hresult, ?_⟩
    exact (hnext.keeps hlayers s.stack hresult).wellFormed
      (hnext.keeps root_invariant s.stack hresult)
  · intro f hf searched hsearch
    exact (hstate.layers hloaded).closingSearch_isSettled hf hsearch
  · intro bound line depth text s hvisits f hf searched hsearch
    exact (hvisits.layers hloaded hstate).closingSearch_isSettled hf hsearch

/-- Inside the region of the small grammar, with an end that quotes what opened it. -/
theorem Reachable.sample_lines_leave_wellFormed :
    Sample.grammar.Loaded .literal ∧
    Sample.grammar.Reachable .literal (.inside Sample.opened) ∧
    (∀ line result, Sample.grammar.tokenize .literal line (.inside Sample.opened) = .ok result →
      ∃ stack, result.state = .inside stack ∧ stack.WellFormed .literal Sample.grammar) ∧
    (∀ f ∈ (Sample.grammar.lineStack (.inside Sample.opened)).frames, ∀ searched,
      Sample.grammar.ClosingSearch f searched →
        ∃ closing, (Sample.grammar.rule f.rule).closing? = some closing ∧
          closing.IsSettled .literal searched) ∧
    (∀ bound line depth text s,
      Sample.grammar.Visits .literal bound line (.inside Sample.opened) depth text s →
      ∀ f ∈ s.stack.frames, ∀ searched, Sample.grammar.ClosingSearch f searched →
        ∃ closing, (Sample.grammar.rule f.rule).closing? = some closing ∧
          closing.IsSettled .literal searched) :=
  ⟨Sample.grammar_loaded, Sample.opened_reachable,
    Reachable.lines_leave_wellFormed Sample.grammar_loaded Sample.opened_reachable⟩

end Grammar

end ScopeCheck
