import ScopeCheck.Proofs.Grammar.Reading
import ScopeCheck.Proofs.Line.Progress

/-!
# Whatever is looked up is there

Tokenizing a line looks up rules by their numbers, frames of a stack and ranges of a text.

* `Grammar.Closed`: wherever the table of a grammar mentions a rule, the table has it.
  `Grammar.CompiledFrom.closed` says that this is so for every compiled grammar;
* `Stack.Founded`: the rules of all frames are in the table, and what is at the bottom is never
  taken away;
* `Found.Within`: all groups of a match are ranges of the text in which it was found, so what is
  quoted of it in names and patterns is cut out of this text;
* `Scan.CutFrom`: a scan of captured text stands inside of what has been cut out for it;
* `Scan.Safe`: what the next step of a scan looks up is there.

`Grammar.Reachable.lookups_succeed` puts them together for whatever a line comes to.
-/

namespace ScopeCheck

variable {ρ : Type} {engine : RegexEngine ρ} {g : Grammar ρ} {scanner : Scanner ρ}
  {text line : Array Char} {state : LineState ρ} {s : Scan ρ} {bound depth : Nat}

/-! ## Ranges -/

/-- A range of a text of `size` characters. -/
structure Span.Within (span : Span) (size : Nat) : Prop where
  start_le : span.start ≤ span.stop
  stop_le : span.stop ≤ size

/-- All groups of a match that took part are ranges of a text of `size` characters, with the match
as a whole as the first one. -/
structure Found.Within (found : Found) (size : Nat) : Prop where
  whole : found.span? 0 = some found.whole
  span : ∀ number span, found.span? number = some span → span.Within size

/-- Matches start where the search starts or later, and their groups are ranges of the text. -/
def RegexEngine.FindsRanges (engine : RegexEngine ρ) : Prop :=
  ∀ regex text start found, engine.search regex text start = some found →
    found.Ahead text.size start ∧ ∀ span, some span ∈ found.groups → span.Within text.size

theorem RegexEngine.FindsRanges.searchesForward (hengine : engine.FindsRanges) :
    engine.SearchesForward :=
  fun regex text start found hfound => (hengine regex text start found hfound).1

theorem RegexEngine.literal_findsRanges : RegexEngine.literal.FindsRanges := by
  intro word text start found hfound
  refine ⟨(literal_staysInside word text start found hfound).1, ?_⟩
  obtain ⟨pos, _, rfl⟩ := Option.map_eq_some_iff.1 hfound
  intro span hspan
  cases hspan

theorem Found.within_of_groups {found : Found} {size pos : Nat} (hahead : found.Ahead size pos)
    (hgroups : ∀ span, some span ∈ found.groups → span.Within size) : found.Within size where
  whole := rfl
  span := by
    intro number span hspan
    cases number with
    | zero =>
        obtain rfl : found.whole = span := Option.some.inj hspan
        exact ⟨hahead.start_le, hahead.stop_le⟩
    | succ index => exact hgroups span (List.mem_of_getElem? (Option.join_eq_some_iff.1 hspan))

theorem Pattern.search_within (hengine : engine.FindsRanges) {p : Pattern ρ} {q : Query}
    {found : Found} (h : p.search engine q = .ok (some found)) : found.Within q.text.size := by
  obtain ⟨_, regex, hregex⟩ := Pattern.search_eq_some h
  obtain ⟨hahead, hgroups⟩ := hengine regex q.text q.start found hregex
  exact Found.within_of_groups hahead hgroups

/-! ## The table -/

/-- A rule that goes from a begin to an end. -/
def Grammar.IsRegion (g : Grammar ρ) (id : RuleIndex) : Prop :=
  ∃ first firstCaptures last lastCaptures lastIsTriedLast patterns,
    (g.rule id).form = .region first firstCaptures last lastCaptures lastIsTriedLast patterns

/-- Every number of a rule that the table of a grammar mentions is one of the table. -/
structure Grammar.Closed (g : Grammar ρ) : Prop where
  root_lt : g.root < g.rules.size
  /-- For every rule there is the list of what is tried inside it. -/
  entries_size : g.entries.size = g.rules.size
  patterns_lt : ∀ id, ∀ inner ∈ (g.rule id).patterns, inner < g.rules.size
  /-- What is tried inside a rule matches something itself. -/
  entries : ∀ id, ∀ entry ∈ g.entriesOf id, entry < g.rules.size ∧ ¬ g.IsContainer entry
  /-- Captured text is scanned with containers. -/
  inner : ∀ id number rule container,
    (number, rule) ∈ (g.rule id).entryCaptures ++ (g.rule id).closingCaptures →
      rule.inner = some container → container < g.rules.size ∧ g.IsContainer container

namespace Grammar

theorem CompiledFrom.numbering_lt {lib : Library} {parts : List Part}
    (h : g.CompiledFrom engine lib parts) {key : Key} {id : RuleIndex}
    (hid : numbering parts key = some id) : id < g.rules.size := by
  obtain ⟨p, hp, _⟩ := key_of_numbering hid
  exact h.lt_size hp

theorem CompiledFrom.entries_size {lib : Library} {parts : List Part}
    (h : g.CompiledFrom engine lib parts) : g.entries.size = g.rules.size := by
  obtain ⟨rules, _, rfl⟩ := h.rules
  simp [Grammar.ofRules]

/-- Containers are expanded, so none of them is tried. -/
theorem CompiledFrom.not_isContainer_of_mem_entriesOf {lib : Library} {parts : List Part}
    (h : g.CompiledFrom engine lib parts) {id entry : RuleIndex} (hentry : entry ∈ g.entriesOf id) :
    ¬ g.IsContainer entry := by
  rintro ⟨patterns, hform⟩
  rw [h.entriesOf id] at hentry
  have hleaf : (g.rule entry).contents? = none := Rules.contents?_of_mem_expand hentry
  rw [Rule.contents?, hform] at hleaf
  cases hleaf

theorem CompiledFrom.closed {lib : Library} {parts : List Part}
    (h : g.CompiledFrom engine lib parts) : g.Closed := by
  have hcoherent := coherent_of_compile h.compile_eq
  refine ⟨?_, h.entries_size, ?_, ?_, ?_⟩
  · obtain ⟨d, _, hroot⟩ := h.root_eq
    exact h.lt_size hroot
  · intro id inner hinner
    obtain ⟨key, hkey⟩ := h.numbered_of_mem_patterns id inner hinner
    exact h.numbering_lt hkey
  · intro id entry hentry
    exact ⟨hcoherent.entries_lt id entry hentry, h.not_isContainer_of_mem_entriesOf hentry⟩
  · intro id number rule container hmem hinner
    refine ⟨?_, hcoherent.inner_container id number rule container hmem hinner⟩
    cases hp : parts[id]? with
    | none =>
        -- Outside the table there are no captures.
        rw [h.rule_eq_blank hp] at hmem
        cases hmem
    | some p =>
        obtain ⟨which, place, hplace⟩ := Part.rule_inner (h.rule hp) hmem hinner
        exact h.numbering_lt hplace

theorem Loaded.closed (hloaded : g.Loaded engine) : g.Closed := by
  obtain ⟨lib, parts, hcompiled⟩ := hloaded.compiledFrom
  exact hcompiled.closed

/-- Outside the table there are no rules with an end or a condition. -/
theorem lt_size_of_closing? {id : RuleIndex} {closing : Pattern ρ}
    (h : (g.rule id).closing? = some closing) : id < g.rules.size := by
  refine Rules.lt_size_of_contents? ?_
  show (g.rule id).contents? = none
  unfold Rule.closing? at h
  unfold Rule.contents?
  split at h
  · rename_i hform
    rw [hform]
  · rename_i hform
    rw [hform]
  · cases h

/-- Only a region has an end that is tried. -/
theorem isRegion_of_last_mem {frame : Frame ρ} {pattern : Pattern ρ}
    (h : (Candidate.last, pattern) ∈ g.candidates frame) : g.IsRegion frame.rule := by
  unfold candidates at h
  split at h
  · rename_i hform
    exact ⟨_, _, _, _, _, _, hform⟩
  · obtain ⟨id, _, hentry⟩ := List.mem_filterMap.1 h
    obtain ⟨p, _, hp⟩ := Option.map_eq_some_iff.1 hentry
    cases hp

end Grammar

/-! ## Stacks -/

/-- All frames are of rules of the table.  At the bottom is a container, which has neither an end
nor a condition: no match of an end and no condition that fails takes it away, so the stack never
gets empty. -/
structure Stack.Founded (g : Grammar ρ) (stack : Stack ρ) : Prop where
  rule_lt : ∀ f ∈ stack.frames, f.rule < g.rules.size
  bottom : ∃ f, stack.frames.getLast? = some f ∧ g.IsContainer f.rule

namespace Grammar

theorem Layers.bottom_isContainer {frames : List (Frame ρ)} (h : g.Layers engine frames) :
    ∃ f, frames.getLast? = some f ∧ g.IsContainer f.rule := by
  induction h with
  | @bottom f hbottom => exact ⟨f, rfl, hbottom.container⟩
  | entered _ _ ih =>
      obtain ⟨f, hlast, hcontainer⟩ := ih
      rw [List.getLast?_cons_cons]
      exact ⟨f, hlast, hcontainer⟩

theorem rule_lt_invariant (hclosed : g.Closed) :
    g.StackInvariant engine fun stack => ∀ f ∈ stack.frames, f.rule < g.rules.size where
  root := by
    intro f hf
    obtain rfl := List.mem_singleton.1 hf
    exact hclosed.root_lt
  forNextLine := by
    intro stack hstack f hf
    obtain ⟨before, hbefore, rfl⟩ :=
      List.mem_map.1 (show f ∈ stack.frames.map Frame.forNextLine from hf)
    exact hstack before hbefore
  outer := fun _ _ hstack hsuffix f hf => hstack f (hsuffix.subset hf)
  enter := by
    intro text id closing found s hclosing hstack f hf
    rcases List.mem_cons.1 hf with rfl | hf
    · exact lt_size_of_closing? hclosing
    · exact hstack f hf

theorem Reachable.founded (hloaded : g.Loaded engine) (hstate : g.Reachable engine state) :
    (g.lineStack state).Founded g where
  rule_lt := hstate.keeps_lineStack (rule_lt_invariant hloaded.closed)
  bottom := (hstate.layers hloaded).bottom_isContainer

theorem Visits.founded (hloaded : g.Loaded engine) (hstate : g.Reachable engine state)
    (h : g.Visits engine bound line state depth text s) : s.stack.Founded g where
  rule_lt := by
    refine h.keeps_captures (rule_lt_invariant hloaded.closed) ?_ hstate
    intro id number rule container base text found atTextStart start before hmem hinner f hf
    obtain rfl := List.mem_singleton.1 hf
    exact (hloaded.closed.inner id number rule container hmem hinner).1
  bottom := (h.layers hloaded hstate).bottom_isContainer

/-! ## Positions -/

theorem next_within (hengine : engine.FindsRanges) {point : ScanPoint} {frame : Frame ρ}
    {candidate : Candidate} {found : Found}
    (h : g.next engine text point frame = .ok (some (candidate, found))) :
    found.Within text.size := by
  obtain ⟨pattern, _, hsearch⟩ := next_eq_some h
  exact Pattern.search_within hengine hsearch

/-- A step goes on behind what it has matched, or stays where it was. -/
theorem Move.pos_le (hengine : engine.FindsRanges) {r : ScanStep ρ}
    (hmove : g.Move engine scanner text s r) (hpos : s.point.pos ≤ text.size) :
    r.scan.point.pos ≤ text.size := by
  cases hmove with
  | noMatch => exact hpos
  | leave hcover => exact (next_ahead hengine.searchesForward hcover.1).stop_le
  | emptyRegion => exact hpos
  | single hform hcover => exact (next_ahead hengine.searchesForward hcover.1).stop_le
  | emptyMatch => exact hpos
  | enter hclosing hcover => exact (next_ahead hengine.searchesForward hcover.1).stop_le
  | entered => exact hpos
  | container => exact hpos

/-- The point moves behind every condition that matches. -/
theorem lineStart_pos_le (hengine : engine.FindsRanges)
    (h : g.lineStart engine scanner text state = .ok s) : s.point.pos ≤ text.size := by
  have hkept : g.ConditionInvariant engine scanner text fun _ _ point _ => point.pos ≤ text.size :=
    { skip := fun _ _ _ _ _ _ hpos => hpos
      goesOn := fun _ _ _ _ _ _ found _ _ _ hsearch _ _ =>
        ((Pattern.search_within hengine hsearch).span 0 found.whole rfl).stop_le }
  obtain ⟨_, hpos⟩ := hkept.lineStart (Nat.zero_le _) h
  exact hpos

end Grammar

/-- A scan inside a text that ends with a range of another one, from the start of this range on. -/
def Scan.CutFrom (text inside : Array Char) (s : Scan ρ) : Prop :=
  ∃ span : Span, span.Within text.size ∧ inside = text.extract 0 span.stop ∧
    s.point.pos = span.start

theorem Scan.CutFrom.pos_le {inside : Array Char} (h : s.CutFrom text inside) :
    s.point.pos ≤ inside.size := by
  obtain ⟨span, hrange, rfl, hpos⟩ := h
  rw [hpos, Array.size_extract, Nat.min_eq_left hrange.stop_le]
  exact hrange.start_le

/-- The scan of the text of a group starts where the group does, and ends with it. -/
theorem ScansGroupOf.cutFrom {found : Found} {captures : GroupRules} {inside : Array Char}
    (h : ScansGroupOf found captures text inside s) (hwithin : found.Within text.size) :
    s.CutFrom text inside := by
  obtain ⟨number, rule, container, span, _, _, hspan, hinside, base, atTextStart, before, rfl⟩ := h
  exact ⟨span, hwithin.span number span hspan, hinside, rfl⟩

theorem Starts.cutFrom_of_lineStart (hengine : engine.FindsRanges) {inside : Array Char}
    (h : Starts (fun scanner => g.lineStart engine scanner line state) scanner inside s) :
    s.CutFrom line inside := by
  obtain ⟨_, found, ⟨_, _, _, _, _, hsearch⟩, hgroup⟩ := h.ofLineStart_found
  exact hgroup.cutFrom (Pattern.search_within hengine hsearch)

theorem Starts.cutFrom_of_step (hengine : engine.FindsRanges) {inside : Array Char}
    {s' : Scan ρ} (h : Starts (fun scanner => g.step engine scanner text s) scanner inside s') :
    s'.CutFrom text inside := by
  obtain ⟨_, found, _, hnext, hgroup⟩ := h.ofStep_found
  exact hgroup.cutFrom (Grammar.next_within hengine hnext)

theorem Grammar.Visits.pos_le (hengine : engine.FindsRanges)
    (h : g.Visits engine bound line state depth text s) : s.point.pos ≤ text.size := by
  induction h with
  | line hstart => exact lineStart_pos_le hengine hstart
  | condition hstarts => exact (hstarts.cutFrom_of_lineStart hengine).pos_le
  | next _ hstep ih => exact (step_move hstep).pos_le hengine ih
  | inner _ hstarts => exact (hstarts.cutFrom_of_step hengine).pos_le

/-! ## Steps -/

/-- What the next step of a scan of a text looks up is there. -/
structure Scan.Safe (engine : RegexEngine ρ) (g : Grammar ρ) (text : Array Char) (s : Scan ρ) :
    Prop where
  /-- The scan stands inside its text. -/
  pos_le : s.point.pos ≤ text.size
  founded : s.stack.Founded g
  /-- What is taken from the text for a match are ranges of it, -/
  within : ∀ candidate found,
    g.next engine text s.point s.stack.top = .ok (some (candidate, found)) →
      found.Within text.size
  /-- and so is what is scanned again. -/
  cut : ∀ scanner inside s',
    Starts (fun scanner => g.step engine scanner text s) scanner inside s' → s'.CutFrom text inside
  /-- Only a region is ended, and there is a rule below it. -/
  last : ∀ found, g.next engine text s.point s.stack.top = .ok (some (.last, found)) →
    g.IsRegion s.stack.top.rule ∧ s.stack.below ≠ []
  /-- What is started is in the table and no container. -/
  rule : ∀ id found, g.next engine text s.point s.stack.top = .ok (some (.rule id, found)) →
    id < g.rules.size ∧ ¬ g.IsContainer id

namespace Grammar

theorem Visits.safe (hengine : engine.FindsRanges) (hloaded : g.Loaded engine)
    (hstate : g.Reachable engine state) (h : g.Visits engine bound line state depth text s) :
    s.Safe engine g text where
  pos_le := h.pos_le hengine
  founded := h.founded hloaded hstate
  within := fun _ _ hnext => next_within hengine hnext
  cut := fun _ _ _ hstarts => hstarts.cutFrom_of_step hengine
  last := by
    intro found hnext
    obtain ⟨pattern, hmem, _⟩ := next_eq_some hnext
    refine ⟨isRegion_of_last_mem hmem, ?_⟩
    intro hbelow
    -- Leaving a bottom frame would leave the depth as it is.
    have hdepth := (h.layers hloaded hstate).depth_pop hnext
    rw [Stack.pop, hbelow] at hdepth
    exact absurd hdepth (Nat.succ_ne_self _)
  rule := by
    intro id found hnext
    obtain ⟨pattern, hmem, _⟩ := next_eq_some hnext
    exact hloaded.closed.entries s.stack.top.rule id (mem_candidates_rule hmem).1

/-- Whatever a line is after which lines, all that is looked up for it is there: in the table of
the grammar, in the stack with which the line starts, in the line for its conditions, and in every
step of the scan of the line and of the scans of captured text inside it. -/
theorem Reachable.lookups_succeed (hengine : engine.FindsRanges) (hloaded : g.Loaded engine)
    (hstate : g.Reachable engine state) :
    g.Closed ∧
    (g.lineStack state).Founded g ∧
    (∀ line captures found,
      g.MatchesCondition engine (g.lineStack state).frames line captures found →
        found.Within line.size) ∧
    (∀ scanner line inside s,
      Starts (fun scanner => g.lineStart engine scanner line state) scanner inside s →
        s.CutFrom line inside) ∧
    (∀ bound line depth text s, g.Visits engine bound line state depth text s →
      s.Safe engine g text) := by
  refine ⟨hloaded.closed, hstate.founded hloaded, ?_, ?_, ?_⟩
  · rintro line captures found ⟨_, _, _, _, _, hsearch⟩
    exact Pattern.search_within hengine hsearch
  · intro scanner line inside s hstarts
    exact hstarts.cutFrom_of_lineStart hengine
  · intro bound line depth text s hvisits
    exact hvisits.safe hengine hloaded hstate

/-- In the region of the small grammar. -/
theorem Reachable.sample_lookups_succeed :
    RegexEngine.literal.FindsRanges ∧
    Sample.grammar.Loaded .literal ∧
    Sample.grammar.Reachable .literal (.inside Sample.opened) ∧
    Sample.grammar.Closed ∧
    (Sample.grammar.lineStack (.inside Sample.opened)).Founded Sample.grammar ∧
    (∀ line captures found, Sample.grammar.MatchesCondition .literal
      (Sample.grammar.lineStack (.inside Sample.opened)).frames line captures found →
        found.Within line.size) ∧
    (∀ scanner line inside s, Starts (fun scanner =>
      Sample.grammar.lineStart .literal scanner line (.inside Sample.opened)) scanner inside s →
        s.CutFrom line inside) ∧
    (∀ bound line depth text s,
      Sample.grammar.Visits .literal bound line (.inside Sample.opened) depth text s →
        s.Safe .literal Sample.grammar text) :=
  ⟨RegexEngine.literal_findsRanges, Sample.grammar_loaded, Sample.opened_reachable,
    Reachable.lookups_succeed RegexEngine.literal_findsRanges Sample.grammar_loaded
      Sample.opened_reachable⟩

end Grammar

end ScopeCheck
