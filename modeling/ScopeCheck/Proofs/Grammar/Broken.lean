import ScopeCheck.Proofs.Grammar.Draft
import ScopeCheck.Proofs.Grammar.Requested
import ScopeCheck.Proofs.Line.Refusal

/-!
# What is to blame when compiling is refused

Compiling is refused when a pattern on the way is refused.  Which patterns are on the way does not
depend on the order of the visits, nor on what has been visited before:

* `visitParts_eq_error`, `visitParts_checks`: what is refused belongs to a task that is reached, and
  without a refusal all checks of the visited parts have passed;
* `Library.refused_or_compiled`, `Grammar.CompiledFrom.mem_of_reaches`: so compiling is refused for
  a check of a part that can be reached, and otherwise all parts that can be reached are compiled.
  For the second half a part has to be determined by its key, as it is where no entry has a
  repository of its own (`Part.eq_of_key`);
* `Library.Uses` are the lists of patterns and the rules that can be reached, read off the documents
  alone, and `Library.Reaches.isUsed`, `Library.Uses.exists_part` say that they are those of the
  parts;
* `Grammar.refused_iff_hasBroken` puts this together.

Captures count if their keys are numbers of groups.  The others are passed over:
`Grammar.capture_without_number` has a broken pattern in one of them.
-/

namespace ScopeCheck

variable {ρ : Type} {engine : RegexEngine ρ} {lib : Library}

/-! ## Tasks -/

/-- The patterns of a shape, in the order in which they are checked. -/
def Shape.sources : Shape → List String
  | single source => [source]
  | region first last => [first, last]
  | during first condition => [first, condition]
  | container => []

namespace Part

variable {p q : Part}

/-- What is visited after a part are its patterns, and those of the captures that are in use. -/
theorem mem_patterns_or_captures (h : .visit q ∈ p.tasks lib) :
    q ∈ p.patterns lib ∨ ∃ path e around which, p = .entry path e around ∧
      which ∈ e.shape.captureMaps ∧ q ∈ captureContents path e p.inner which := by
  have hvisit : ∀ {parts : List Part}, Task.visit q ∈ parts.map Task.visit → q ∈ parts := by
    intro parts hmem
    obtain ⟨own, hown, hsame⟩ := List.mem_map.1 hmem
    exact Task.visit.inj hsame ▸ hown
  cases p with
  | root scope d => exact Or.inl (hvisit h)
  | contents which path e around => exact Or.inl (hvisit h)
  | entry path e around =>
      have hcaptures : ∀ which ∈ e.shape.captureMaps,
          Task.visit q ∈ (captureContents path e (Part.entry path e around).inner which).map
            Task.visit → ∃ path' e' around' which, Part.entry path e around =
              .entry path' e' around' ∧ which ∈ e'.shape.captureMaps ∧
                q ∈ captureContents path' e' (Part.entry path e around).inner which :=
        fun which hwhich hmem => ⟨path, e, around, which, rfl, hwhich, hvisit hmem⟩
      rw [tasks] at h
      cases hshape : e.shape with
      | container =>
          rw [hshape] at h
          exact Or.inl (hvisit h)
      | single source =>
          simp only [hshape, List.mem_cons, reduceCtorEq, false_or] at h
          exact Or.inr (hcaptures .whole (by simp [hshape, Shape.captureMaps]) h)
      | region first last =>
          simp only [hshape, List.mem_append, List.mem_cons, reduceCtorEq, false_or] at h
          rcases h with (h | h) | h
          · exact Or.inl (hvisit h)
          · exact Or.inr (hcaptures .first (by simp [hshape, Shape.captureMaps]) h)
          · exact Or.inr (hcaptures .last (by simp [hshape, Shape.captureMaps]) h)
      | during first condition =>
          simp only [hshape, List.mem_append, List.mem_cons, reduceCtorEq, false_or] at h
          rcases h with (h | h) | h
          · exact Or.inl (hvisit h)
          · exact Or.inr (hcaptures .first (by simp [hshape, Shape.captureMaps]) h)
          · exact Or.inr (hcaptures .condition (by simp [hshape, Shape.captureMaps]) h)

/-- What is checked at a part are the patterns of its shape, if it is an entry. -/
theorem check_mem_tasks_iff {source : String} : .check source ∈ p.tasks lib ↔
    ∃ path e around, p = .entry path e around ∧ source ∈ e.shape.sources := by
  cases p with
  | root scope d => simp [tasks]
  | contents which path e around => simp [tasks]
  | entry path e around =>
      rw [tasks]
      cases hshape : e.shape <;> simp [hshape, Shape.sources]

end Part

/-! ## Refusals on the way -/

section Visits

variable {unseen : List Key} {tasks : List Part.Task} {parts : List Part}

/-- What is refused is a check, of the tasks or of what they lead to. -/
theorem visitParts_eq_error {P : Part → Prop} {C : String → Prop}
    (hvisit : ∀ p q, P p → .visit q ∈ p.tasks lib → P q)
    (hcheck : ∀ p source, P p → .check source ∈ p.tasks lib → C source)
    (hvisits : ∀ p, .visit p ∈ tasks → P p) (hchecks : ∀ source, .check source ∈ tasks → C source)
    {error : PatternError} (h : visitParts engine lib unseen tasks = .error error) :
    ∃ source, C source ∧ Pattern.read engine source = .error error := by
  fun_induction visitParts engine lib unseen tasks with
  | case1 => cases h
  | case2 unseen source tasks _ _ ih =>
      exact ih (fun p hp => hvisits p (List.mem_cons_of_mem _ hp))
        (fun source hsource => hchecks source (List.mem_cons_of_mem _ hsource)) h
  | case3 unseen source tasks own hread =>
      obtain rfl := Except.error.inj h
      exact ⟨source, hchecks source List.mem_cons_self, hread⟩
  | case4 unseen p tasks hp _ _ ih =>
      have hfirst : P p := hvisits p List.mem_cons_self
      refine ih (fun q hq => ?_) (fun source hsource => ?_) ?_
      · rcases List.mem_append.1 hq with hq | hq
        · exact hvisit p q hfirst hq
        · exact hvisits q (List.mem_cons_of_mem _ hq)
      · rcases List.mem_append.1 hsource with hsource | hsource
        · exact hcheck p source hfirst hsource
        · exact hchecks source (List.mem_cons_of_mem _ hsource)
      · revert h
        cases visitParts engine lib (unseen.erase p.key) (p.tasks lib ++ tasks) with
        | error own => exact fun h => congrArg Except.error (Except.error.inj h)
        | ok rest => exact fun h => by cases h
  | case5 unseen p tasks hp ih =>
      exact ih (fun p hp => hvisits p (List.mem_cons_of_mem _ hp))
        (fun source hsource => hchecks source (List.mem_cons_of_mem _ hsource)) h

/-- Without a refusal all checks have passed, those of the tasks and those of the visited parts. -/
theorem visitParts_checks (h : visitParts engine lib unseen tasks = .ok parts) {source : String}
    (hsource : .check source ∈ tasks ∨ ∃ p ∈ parts, .check source ∈ p.tasks lib) :
    ∃ pattern, Pattern.read engine source = .ok pattern := by
  fun_induction visitParts engine lib unseen tasks generalizing parts with
  | case1 =>
      obtain rfl := Except.ok.inj h
      rcases hsource with hsource | ⟨p, hp, _⟩
      · cases hsource
      · cases hp
  | case2 unseen own tasks pattern hread ih =>
      rcases hsource with hsource | hsource
      · rcases List.mem_cons.1 hsource with hsame | hsource
        · obtain rfl := Part.Task.check.inj hsame
          exact ⟨pattern, hread⟩
        · exact ih h (Or.inl hsource)
      · exact ih h (Or.inr hsource)
  | case3 => cases h
  | case4 unseen p tasks hp _ _ ih =>
      obtain ⟨rest, hrest, rfl⟩ := map_cons_eq_ok h
      rcases hsource with hsource | ⟨q, hq, hsource⟩
      · rcases List.mem_cons.1 hsource with hvisit | hsource
        · cases hvisit
        · exact ih hrest (Or.inl (List.mem_append_right _ hsource))
      · rcases List.mem_cons.1 hq with rfl | hq
        · exact ih hrest (Or.inl (List.mem_append_left _ hsource))
        · exact ih hrest (Or.inr ⟨q, hq, hsource⟩)
  | case5 unseen p tasks hp ih =>
      rcases hsource with hsource | hsource
      · rcases List.mem_cons.1 hsource with hvisit | hsource
        · cases hvisit
        · exact ih h (Or.inl hsource)
      · exact ih h (Or.inr hsource)

end Visits

/-- A pattern is refused when it is read if it quotes nothing and the engine refuses it. -/
theorem Pattern.read_eq_error_iff {source : String} {error : PatternError} :
    Pattern.read engine source = .error error ↔
      error.source = source ∧ BackReference.occur source.toList = false ∧
        engine.compile source = .error error.reason := by
  unfold Pattern.read Pattern.quotesBegin
  simp only [both_ofSource, source_ofSource]
  cases hquotes : BackReference.occur source.toList with
  | true => simp
  | false =>
      cases hcompile : engine.compile source with
      | ok regex => simp
      | error reason =>
          obtain ⟨own, why⟩ := error
          simp [eq_comm]

/-- When all visits succeed, the parts become rules. -/
theorem Library.exists_compiledFrom {base : Part} (hbase : lib.root lib.base = some base)
    {parts : List Part} (hvisited : visitParts engine lib lib.keys [.visit base] = .ok parts) :
    ∃ g, Grammar.CompiledFrom engine lib g parts := by
  -- All checks have passed.
  have hpassed : ∀ p ∈ parts, ∃ rule, p.rule engine lib (numbering parts) = .ok rule :=
    fun p hp => Part.exists_rule _ fun source hsource =>
      visitParts_checks hvisited (Or.inr ⟨p, hp, hsource⟩)
  obtain ⟨rules, hrules⟩ := exists_mapM_ok hpassed
  exact ⟨Grammar.ofRules lib.base rules.toArray 0, ⟨base, hbase, hvisited⟩, rules, hrules, rfl⟩

theorem Library.compile_eq_error {base : Part} (hbase : lib.root lib.base = some base)
    {error : PatternError} (h : visitParts engine lib lib.keys [.visit base] = .error error) :
    Grammar.compile engine lib = .error error := by
  rw [Grammar.compile, hbase]
  simp only [bind, Except.bind, h]

/-- The base grammar is compiled from what can be reached, unless a check of a part that can be
reached is refused. -/
theorem Library.refused_or_compiled (engine : RegexEngine ρ) {base : Part}
    (hbase : lib.root lib.base = some base) :
    (∃ error, Grammar.compile engine lib = .error error ∧
      ∃ p source, lib.Reaches p ∧ .check source ∈ p.tasks lib ∧
        Pattern.read engine source = .error error) ∨
    ∃ g parts, Grammar.compile engine lib = .ok (some g) ∧ g.CompiledFrom engine lib parts := by
  cases hvisited : visitParts engine lib lib.keys [.visit base] with
  | error error =>
      left
      refine ⟨error, Library.compile_eq_error hbase hvisited, ?_⟩
      have hroot : ∀ p, Part.Task.visit p ∈ [Part.Task.visit base] → lib.Reaches p := by
        intro p hp
        obtain rfl := Part.Task.visit.inj (List.mem_singleton.1 hp)
        exact .base hbase
      obtain ⟨source, ⟨p, hp, hsource⟩, hread⟩ := visitParts_eq_error
        (C := fun source => ∃ p, lib.Reaches p ∧ .check source ∈ p.tasks lib)
        (fun p q hp hq => .step hp hq) (fun p source hp hsource => ⟨p, hp, hsource⟩) hroot
        (fun source hsource => by simp at hsource) hvisited
      exact ⟨p, source, hp, hsource, hread⟩
  | ok parts =>
      right
      obtain ⟨g, hcompiled⟩ := Library.exists_compiledFrom hbase hvisited
      exact ⟨g, parts, hcompiled.compile_eq, hcompiled⟩

/-! ## Parts that are determined by their keys -/

namespace Part

variable {p q : Part}

/-- If no entry has a repository of its own, there is one part for a key. -/
theorem eq_of_key (hinner : lib.HasNoInnerRepository) (hp : p.IsWritten lib)
    (hpsees : p.SeesOwnRepository lib) (hq : q.IsWritten lib) (hqsees : q.SeesOwnRepository lib)
    (h : p.key = q.key) : p = q := by
  -- What is around two entries of one grammar is the same.
  have haround : ∀ {around around' : Surroundings} {d d' : Document},
      around.scope = around'.scope → Dictionary.find? around.scope lib.documents = some d →
      Dictionary.find? around'.scope lib.documents = some d' →
      around.repositories = [⟨[], d.repository⟩] → around'.repositories = [⟨[], d'.repository⟩] →
      around = around' := by
    rintro ⟨scope, repositories⟩ ⟨scope', repositories'⟩ d d' rfl hd hd' rfl rfl
    obtain rfl : d = d' := Option.some.inj (hd.symm.trans hd')
    rfl
  obtain ⟨d, hd, hrepositories⟩ := hpsees
  obtain ⟨d', hd', hrepositories'⟩ := hqsees
  cases p with
  | root scope document =>
      cases q with
      | root scope' document' =>
          obtain rfl := Key.root.inj h
          obtain rfl : document = document' := Option.some.inj (hp.symm.trans hq)
          rfl
      | entry path e around => cases h
      | contents which path e around => cases h
  | entry path e around =>
      cases q with
      | entry path' e' around' =>
          obtain ⟨hscope, rfl⟩ := Place.mk.inj (Key.entry.inj h)
          have he := hp.entryAt? hd
          have he' := hq.entryAt? hd'
          simp only [inner, hinner _ d hd path e he] at hrepositories
          simp only [inner, hinner _ d' hd' path e' he'] at hrepositories'
          obtain rfl := haround hscope hd hd' hrepositories hrepositories'
          obtain rfl : d = d' := Option.some.inj (hd.symm.trans hd')
          obtain rfl : e = e' := Option.some.inj (he.symm.trans he')
          rfl
      | root scope d => cases h
      | contents which path e around => cases h
  | contents which path e around =>
      cases q with
      | contents which' path' e' around' =>
          obtain ⟨rfl, hplace⟩ := Key.contents.inj h
          obtain ⟨hscope, rfl⟩ := Place.mk.inj hplace
          obtain rfl := haround hscope hd hd' hrepositories hrepositories'
          obtain ⟨_, hof, he⟩ := hp
          obtain ⟨_, hof', he'⟩ := hq
          obtain rfl := entry_unique rfl hof hof' he he'
          rfl
      | root scope d => cases h
      | entry path e around => cases h

end Part

section Reaches

variable (hinner : lib.HasNoInnerRepository) (hkeyed : lib.CapturesKeyed)

include hinner hkeyed

theorem Library.Reaches.isWritten {p : Part} (h : lib.Reaches p) :
    p.IsWritten lib ∧ p.SeesOwnRepository lib := by
  induction h with
  | base hroot =>
      obtain ⟨d, hd, rfl⟩ := Option.map_eq_some_iff.1 hroot
      exact ⟨hd, d, hd, rfl⟩
  | step _ htask ih =>
      have hleads := Part.leads_of_mem_tasks htask
      have hwritten := hleads.isWritten hkeyed ih.1
      exact ⟨hwritten, hleads.seesOwnRepository hinner hwritten ih.2⟩

/-- All parts that can be reached are compiled. -/
theorem Grammar.CompiledFrom.mem_of_reaches {g : Grammar ρ} {parts : List Part}
    (hcompiled : g.CompiledFrom engine lib parts) {p : Part} (h : lib.Reaches p) : p ∈ parts := by
  induction h with
  | base hroot =>
      obtain ⟨d, hd, hpart⟩ := hcompiled.root_eq
      obtain ⟨own, hown, rfl⟩ := Option.map_eq_some_iff.1 hroot
      obtain rfl : own = d := Option.some.inj (hown.symm.trans hd)
      exact List.mem_of_getElem? hpart
  | @step p q hreached htask ih =>
      obtain ⟨hwritten, hsees⟩ :=
        (Library.Reaches.step hreached htask).isWritten hinner hkeyed
      obtain ⟨id, hid⟩ := hcompiled.exists_number ih htask hwritten.key_mem_keys
      obtain ⟨other, hother, hkey⟩ := key_of_numbering hid
      have hmem := List.mem_of_getElem? hother
      obtain ⟨hotherWritten, hotherSees⟩ := (hcompiled.reaches other hmem).isWritten hinner hkeyed
      obtain rfl := Part.eq_of_key hinner hotherWritten hotherSees hwritten hsees hkey
      exact hmem

/-- Without a refusal the checks of all parts that can be reached have passed. -/
theorem Grammar.CompiledFrom.checks_passed {g : Grammar ρ} {parts : List Part}
    (hcompiled : g.CompiledFrom engine lib parts) {p : Part} (h : lib.Reaches p) {source : String}
    (hsource : .check source ∈ p.tasks lib) :
    ∃ pattern, Pattern.read engine source = .ok pattern := by
  have hmem := hcompiled.mem_of_reaches hinner hkeyed h
  obtain ⟨_, _, hvisited⟩ := hcompiled.visited
  exact visitParts_checks hvisited (Or.inr ⟨p, hmem, hsource⟩)

end Reaches

/-! ## What can be reached, read off the documents -/

namespace Entry

/-- The patterns that a rule has: its match, or else its begin and its while or end. -/
def held (e : Entry) : List String :=
  match e.matchSource, e.beginSource with
  | some source, _ => [source]
  | none, some first => first :: (e.whileSource.or e.endSource).toList
  | none, none => []

/-- The maps of captures that a rule uses: those of a match; or those of its begin, and of its while
if it has one and of its end otherwise, where a map that is missing is replaced by the one for the
whole rule. -/
def mapsInUse (e : Entry) : List (List (String × Entry)) :=
  let whole := e.captures.getD []
  match e.matchSource, e.beginSource with
  | some _, _ => [whole]
  | none, some _ =>
    [e.beginCaptures.getD whole,
      if e.whileSource.isSome then e.whileCaptures.getD whole else e.endCaptures.getD whole]
  | none, none => []

end Entry

namespace Library

/-- The grammar that an include stands for, where it is written in the grammar of a scope. -/
def grammarNamed? (lib : Library) (scope : String) : Target → Option (String × Document)
  | .self => (Dictionary.find? scope lib.documents).map (scope, ·)
  | .base => (Dictionary.find? lib.base lib.documents).map (lib.base, ·)
  | .grammar other => (Dictionary.find? other lib.documents).map (other, ·)
  | .named _ | .entryOf _ _ => none

/-- The rule that an include stands for, with the scope of its grammar. -/
def ruleNamed? (lib : Library) (scope : String) : Target → Option (String × Entry)
  | .named name => entryOf scope name
  | .entryOf other name => entryOf other name
  | .self | .base | .grammar _ => none
where
  entryOf (scope name : String) : Option (String × Entry) :=
    (Dictionary.find? scope lib.documents).bind fun d =>
      (Dictionary.find? name d.repository).map (scope, ·)

end Library

/-- What can be reached. -/
inductive Piece
  /-- A list of patterns. -/
  | list (entries : List Entry)
  /-- A rule. -/
  | rule (e : Entry)

/-- What can be reached from the base grammar, with the scope of the grammar in which it is written.
Only captures with the keys `counts` are looked into. -/
inductive Library.Uses (lib : Library) (counts : String → Prop) : String → Piece → Prop
  | base {d : Document} (found : Dictionary.find? lib.base lib.documents = some d) :
      Uses lib counts lib.base (.list d.patterns)
  /-- An entry of a list without an include that is not switched off. -/
  | own {scope : String} {entries : List Entry} {e : Entry} (list : Uses lib counts scope
      (.list entries)) (mem : e ∈ entries) (plain : e.reference = none) (on : e.isOff = false) :
      Uses lib counts scope (.rule e)
  /-- An include of a grammar that is available. -/
  | grammar {scope other text : String} {entries : List Entry} {e : Entry} {d : Document}
      (list : Uses lib counts scope (.list entries)) (mem : e ∈ entries)
      (reference : e.reference = some text)
      (found : lib.grammarNamed? scope (Target.ofText text) = some (other, d)) :
      Uses lib counts other (.list d.patterns)
  /-- An include of a rule that is not switched off. -/
  | named {scope other text : String} {entries : List Entry} {e rule : Entry}
      (list : Uses lib counts scope (.list entries)) (mem : e ∈ entries)
      (reference : e.reference = some text)
      (found : lib.ruleNamed? scope (Target.ofText text) = some (other, rule))
      (on : rule.isOff = false) : Uses lib counts other (.rule rule)
  /-- The patterns inside a rule without a match. -/
  | nested {scope : String} {e : Entry} (rule : Uses lib counts scope (.rule e))
      (noMatch : e.matchSource = none) : Uses lib counts scope (.list (e.patterns.getD []))
  /-- The patterns inside a capture that is in use. -/
  | captured {scope key : String} {e capture : Entry} {map : List (String × Entry)}
      {entries : List Entry} (rule : Uses lib counts scope (.rule e)) (inUse : map ∈ e.mapsInUse)
      (mem : (key, capture) ∈ map) (key_counts : counts key)
      (inside : capture.patterns = some entries) : Uses lib counts scope (.list entries)

/-- A rule that can be reached has a pattern that quotes nothing and that the engine refuses. -/
def Library.HasBroken (engine : RegexEngine ρ) (lib : Library) (counts : String → Prop)
    (source reason : String) : Prop :=
  ∃ scope e, lib.Uses counts scope (.rule e) ∧ source ∈ e.held ∧
    BackReference.occur source.toList = false ∧ engine.compile source = .error reason

/-- The key of a capture is the number of a group. -/
def IsGroupNumber (key : String) : Prop := (captureNumber? key).isSome

namespace Entry

variable {e : Entry}

/-- The patterns of the shape of an entry are those that it has, with one for a missing end. -/
theorem sources_eq (e : Entry) : e.shape.sources = e.held ∨
    e.shape.sources = e.held ++ [String.singleton Anchors.unmatchable] := by
  obtain ⟨reference, name, contentName, m, b, en, w, c, bc, ec, wc, patterns, repository, l, d⟩ := e
  cases m with
  | some source => exact Or.inl rfl
  | none =>
      cases b with
      | none => exact Or.inl rfl
      | some first =>
          cases w with
          | some condition => exact Or.inl rfl
          | none =>
              cases en with
              | some last => exact Or.inl rfl
              | none => exact Or.inr rfl

/-- The maps in use are those of the shape. -/
theorem mem_mapsInUse_iff {map : List (String × Entry)} :
    map ∈ e.mapsInUse ↔ ∃ which ∈ e.shape.captureMaps, (e.capturesFor which).2 = map := by
  have hwhole : (e.capturesFor .whole).2 = e.captures.getD [] := rfl
  have hfirst : (e.capturesFor .first).2 = e.beginCaptures.getD (e.captures.getD []) := by
    unfold capturesFor
    cases e.beginCaptures <;> rfl
  have hlast : (e.capturesFor .last).2 = e.endCaptures.getD (e.captures.getD []) := by
    unfold capturesFor
    cases e.endCaptures <;> rfl
  have hcondition : (e.capturesFor .condition).2 =
      e.whileCaptures.getD (e.captures.getD []) := by
    unfold capturesFor
    cases e.whileCaptures <;> rfl
  unfold mapsInUse shape
  cases e.matchSource with
  | some source => simp [Shape.captureMaps, hwhole, eq_comm]
  | none =>
      cases e.beginSource with
      | none => simp [Shape.captureMaps]
      | some first =>
          cases e.whileSource with
          | some condition => simp [Shape.captureMaps, hfirst, hcondition, eq_comm]
          | none => simp [Shape.captureMaps, hfirst, hlast, eq_comm]

end Entry

/-! ## The parts are what can be reached -/

namespace Part

variable {p q : Part} {counts : String → Prop}

/-- What a part is of can be reached, read off the documents. -/
def IsUsed (lib : Library) (counts : String → Prop) : Part → Prop
  | root scope d => lib.Uses counts scope (.list d.patterns)
  | entry _ e around => lib.Uses counts around.scope (.rule e)
  | contents _ _ e around => lib.Uses counts around.scope (.list (e.patterns.getD []))

/-- The part of a piece. -/
def IsOf (p : Part) (scope : String) : Piece → Prop
  | .list entries => p.inner.scope = scope ∧ p.written.2 = entries
  | .rule e => ∃ path around, p = .entry path e around ∧ around.scope = scope

/-- Only an entry without a match has patterns. -/
theorem written_of_noMatch {path : List Step} {e : Entry} {around : Surroundings}
    (h : e.matchSource = none) : (Part.entry path e around).written.2 = e.patterns.getD [] := by
  cases hshape : e.shape with
  | single source =>
      simp only [Entry.shape, h] at hshape
      split at hshape <;> simp_all
  | region first last => rw [written, hshape]
  | during first condition => rw [written, hshape]
  | container => rw [written, hshape]

/-- The patterns in which something is written can be reached. -/
theorem IsUsed.list (h : p.IsUsed lib counts) {i : Nat} {e : Entry}
    (he : p.written.2[i]? = some e) : lib.Uses counts p.inner.scope (.list p.written.2) := by
  cases p with
  | root scope d => exact h
  | contents which path capture around => exact h
  | entry path owner around =>
      cases hmatch : owner.matchSource with
      | some source =>
          simp [written, Entry.shape, hmatch] at he
      | none =>
          rw [inner_scope, written_of_noMatch hmatch]
          exact .nested h hmatch

theorem isUsed_of_root {scope other : String} {entries : List Entry} {e : Entry} {text : String}
    (hlist : lib.Uses counts scope (.list entries)) (hmem : e ∈ entries)
    (hreference : e.reference = some text) (hroot : lib.root other = some q)
    (hnamed : lib.grammarNamed? scope (Target.ofText text) =
      (Dictionary.find? other lib.documents).map (other, ·)) : q.IsUsed lib counts := by
  obtain ⟨d, hd, rfl⟩ := Option.map_eq_some_iff.1 hroot
  refine .grammar hlist hmem hreference ?_
  rw [hnamed, hd, Option.map_some]

theorem enabled_eq_some {path : List Step} {e : Entry} {around : Surroundings}
    (h : Library.enabled path e around = some q) : q = .entry path e around ∧ e.isOff = false := by
  unfold Library.enabled at h
  split at h
  · cases h
  · rename_i hon
    exact ⟨(Option.some.inj h).symm, Bool.eq_false_iff.2 hon⟩

/-- What a part is tried with can be reached if the part can. -/
theorem IsUsed.of_mem_patterns (hsees : p.SeesOwnRepository lib) (h : p.IsUsed lib counts)
    (hq : q ∈ p.patterns lib) : q.IsUsed lib counts := by
  obtain ⟨i, e, he, hstands⟩ := mem_patterns.1 hq
  have hlist := h.list he
  have hmem := List.mem_of_getElem? he
  unfold Library.standsFor at hstands
  split at hstands
  · rename_i text hreference
    cases htarget : Target.ofText text with
    | self =>
        rw [htarget] at hstands
        exact isUsed_of_root hlist hmem hreference hstands (by rw [htarget]; rfl)
    | base =>
        rw [htarget] at hstands
        exact isUsed_of_root hlist hmem hreference hstands (by rw [htarget]; rfl)
    | grammar scope =>
        rw [htarget] at hstands
        exact isUsed_of_root hlist hmem hreference hstands (by rw [htarget]; rfl)
    | named name =>
        rw [htarget] at hstands
        obtain ⟨⟨path, found⟩, hfound, henabled⟩ := Option.bind_eq_some_iff.1 hstands
        obtain ⟨rfl, hon⟩ := enabled_eq_some henabled
        obtain ⟨d, hd, hrepositories⟩ := hsees
        rw [hrepositories] at hfound
        obtain ⟨r, hr, rfl, hentry⟩ := mem_of_findNamed hfound
        obtain rfl := List.mem_singleton.1 hr
        refine .named hlist hmem hreference ?_ hon
        rw [htarget, Library.ruleNamed?, Library.ruleNamed?.entryOf, inner_scope, hd,
          Option.bind_some, hentry, Option.map_some]
    | entryOf scope name =>
        rw [htarget] at hstands
        obtain ⟨d, hd, hentry⟩ := Option.bind_eq_some_iff.1 hstands
        obtain ⟨found, hfound, henabled⟩ := Option.bind_eq_some_iff.1 hentry
        obtain ⟨rfl, hon⟩ := enabled_eq_some henabled
        refine .named hlist hmem hreference ?_ hon
        rw [htarget, Library.ruleNamed?, Library.ruleNamed?.entryOf, hd, Option.bind_some, hfound,
          Option.map_some]
        rfl
  · rename_i hplain
    obtain ⟨rfl, hon⟩ := enabled_eq_some hstands
    exact .own hlist hmem hplain hon

/-- The patterns inside a capture that is in use can be reached if its rule can. -/
theorem IsUsed.of_mem_captureContents {path : List Step} {e : Entry} {around : Surroundings}
    {which : CaptureMap} (h : (Part.entry path e around).IsUsed lib IsGroupNumber)
    (hwhich : which ∈ e.shape.captureMaps)
    (hq : q ∈ captureContents path e (Part.entry path e around).inner which) :
    q.IsUsed lib IsGroupNumber := by
  obtain ⟨⟨number, steps, capture⟩, hcapture, hcontents⟩ := List.mem_filterMap.1 hq
  obtain ⟨patterns, hpatterns, rfl⟩ := Option.map_eq_some_iff.1 hcontents
  obtain ⟨⟨key, own⟩, hmem, hnumber⟩ := List.mem_filterMap.1 hcapture
  obtain ⟨_, hkey, hsame⟩ := Option.map_eq_some_iff.1 hnumber
  obtain rfl : own = capture := (Prod.mk.inj (Prod.mk.inj hsame).2).2
  have huse : lib.Uses IsGroupNumber around.scope (.list patterns) :=
    .captured h (Entry.mem_mapsInUse_iff.2 ⟨which, hwhich, rfl⟩) hmem
      (Option.isSome_iff_exists.2 ⟨_, hkey⟩) hpatterns
  show lib.Uses IsGroupNumber (Part.entry path e around).inner.scope (.list (own.patterns.getD []))
  rw [inner_scope, hpatterns]
  exact huse

end Part

/-- The patterns inside a capture of a group are reached with the entry. -/
theorem Library.Reaches.contents {path : List Step} {e capture : Entry} {around : Surroundings}
    {key : String} {which : CaptureMap} (h : lib.Reaches (.entry path e around))
    (hwhich : which ∈ e.shape.captureMaps) (hcapture : (key, capture) ∈ (e.capturesFor which).2)
    {number : Nat} (hnumber : captureNumber? key = some number)
    (hpatterns : capture.patterns.isSome) :
    lib.Reaches (.contents which (.capture (e.capturesFor which).1 key :: path) capture
      (Part.entry path e around).inner) := by
  obtain ⟨patterns, hpatterns⟩ := Option.isSome_iff_exists.1 hpatterns
  have hnumbered : (number, .capture (e.capturesFor which).1 key :: path, capture) ∈
      Part.numberedCaptures path e which := by
    refine List.mem_filterMap.2 ⟨(key, capture), hcapture, ?_⟩
    rw [hnumber]
    rfl
  refine .step h (Part.visit_mem_tasks_of_captures hwhich ?_)
  refine List.mem_filterMap.2 ⟨_, hnumbered, ?_⟩
  simp only [hpatterns, Option.map_some]

/-! ## Includes, by what they name -/

namespace Library

variable {around : Surroundings} {target : Target} {scope : String}

theorem included_of_grammarNamed {d : Document}
    (h : lib.grammarNamed? around.scope target = some (scope, d)) :
    lib.included around target = some (.root scope d) := by
  have hroot : ∀ {other}, (Dictionary.find? other lib.documents).map (other, ·) = some (scope, d) →
      lib.root other = some (.root scope d) := by
    intro other hfound
    obtain ⟨own, hown, hsame⟩ := Option.map_eq_some_iff.1 hfound
    obtain ⟨rfl, rfl⟩ := Prod.mk.inj hsame
    rw [Library.root, hown, Option.map_some]
  cases target with
  | self => exact hroot h
  | base => exact hroot h
  | grammar other => exact hroot h
  | named name => cases h
  | entryOf other name => cases h

/-- Where only the repository of the grammar is around, names are looked up in it. -/
theorem included_of_ruleNamed {rule : Entry} {d : Document}
    (hd : Dictionary.find? around.scope lib.documents = some d)
    (haround : around.repositories = [⟨[], d.repository⟩])
    (h : lib.ruleNamed? around.scope target = some (scope, rule)) (hon : rule.isOff = false) :
    ∃ path other, lib.included around target = some (.entry path rule other) ∧
      other.scope = scope := by
  cases target with
  | self => cases h
  | base => cases h
  | grammar other => cases h
  | named name =>
      obtain ⟨d', hd', hentry⟩ := Option.bind_eq_some_iff.1 h
      obtain ⟨own, hown, hsame⟩ := Option.map_eq_some_iff.1 hentry
      obtain ⟨hscope, rfl⟩ := Prod.mk.inj hsame
      obtain rfl : d = d' := Option.some.inj (hd.symm.trans hd')
      refine ⟨[.repository name], around, ?_, hscope⟩
      simp only [included, haround, findNamed, hown, Option.bind_some, enabled, hon,
        Bool.false_eq_true, if_false]
  | entryOf other name =>
      obtain ⟨d', hd', hentry⟩ := Option.bind_eq_some_iff.1 h
      obtain ⟨own, hown, hsame⟩ := Option.map_eq_some_iff.1 hentry
      obtain ⟨rfl, rfl⟩ := Prod.mk.inj hsame
      refine ⟨[.repository name], d'.surroundings other, ?_, rfl⟩
      simp only [included, hd', hown, Option.bind_some, enabled, hon, Bool.false_eq_true, if_false]

end Library

section Pieces

variable (hinner : lib.HasNoInnerRepository) (hkeyed : lib.CapturesKeyed)

include hinner hkeyed

/-- What can be reached by compiling can be reached in the documents. -/
theorem Library.Reaches.isUsed {p : Part} (h : lib.Reaches p) : p.IsUsed lib IsGroupNumber := by
  induction h with
  | base hroot =>
      obtain ⟨d, hd, rfl⟩ := Option.map_eq_some_iff.1 hroot
      exact .base hd
  | @step p q hreached htask ih =>
      rcases Part.mem_patterns_or_captures htask with
        hq | ⟨path, e, around, which, rfl, hwhich, hq⟩
      · exact ih.of_mem_patterns (hreached.isWritten hinner hkeyed).2 hq
      · exact ih.of_mem_captureContents hwhich hq

/-- What can be reached in the documents can be reached by compiling. -/
theorem Library.Uses.exists_part {scope : String} {piece : Piece}
    (h : lib.Uses IsGroupNumber scope piece) : ∃ p, lib.Reaches p ∧ p.IsOf scope piece := by
  have hstep : ∀ {p q : Part} {i : Nat} {e : Entry}, lib.Reaches p → p.written.2[i]? = some e →
      lib.standsFor p.inner (.pattern i :: p.written.1) e = some q → lib.Reaches q := by
    intro p q i e hp he hstands
    exact .step hp (Part.visit_mem_tasks (Part.mem_patterns.2 ⟨i, e, he, hstands⟩))
  induction h with
  | @base d hfound =>
      refine ⟨.root lib.base d, .base ?_, rfl, rfl⟩
      rw [Library.root, hfound, Option.map_some]
  | @own scope entries e _ hmem hplain hon ih =>
      obtain ⟨p, hp, rfl, rfl⟩ := ih
      obtain ⟨i, he⟩ := List.getElem?_of_mem hmem
      refine ⟨.entry (.pattern i :: p.written.1) e p.inner, hstep hp he ?_, _, _, rfl, rfl⟩
      simp only [Library.standsFor, hplain, Library.enabled, hon, Bool.false_eq_true, if_false]
  | @grammar scope other text entries e d _ hmem hreference hfound ih =>
      obtain ⟨p, hp, rfl, rfl⟩ := ih
      obtain ⟨i, he⟩ := List.getElem?_of_mem hmem
      refine ⟨.root other d, hstep hp he ?_, rfl, rfl⟩
      simp only [Library.standsFor, hreference]
      exact Library.included_of_grammarNamed hfound
  | @named scope other text entries e rule _ hmem hreference hfound hon ih =>
      obtain ⟨p, hp, rfl, rfl⟩ := ih
      obtain ⟨i, he⟩ := List.getElem?_of_mem hmem
      obtain ⟨d, hd, hrepositories⟩ := (hp.isWritten hinner hkeyed).2
      rw [← Part.inner_scope] at hd
      obtain ⟨path, around, hincluded, hscope⟩ :=
        Library.included_of_ruleNamed hd hrepositories hfound hon
      refine ⟨.entry path rule around, hstep hp he ?_, _, _, rfl, hscope⟩
      simp only [Library.standsFor, hreference]
      exact hincluded
  | nested _ hnone ih =>
      obtain ⟨_, hp, path, around, rfl, rfl⟩ := ih
      exact ⟨_, hp, Part.inner_scope _, Part.written_of_noMatch hnone⟩
  | @captured scope key e capture map entries _ huse hmem hkey hinside ih =>
      obtain ⟨_, hp, path, around, rfl, rfl⟩ := ih
      obtain ⟨which, hwhich, rfl⟩ := Entry.mem_mapsInUse_iff.1 huse
      obtain ⟨number, hnumber⟩ := Option.isSome_iff_exists.1 hkey
      have hpatterns : capture.patterns.isSome := by
        rw [hinside]
        rfl
      exact ⟨_, hp.contents hwhich hmem hnumber hpatterns, Part.inner_scope (.entry path e around),
        by rw [Part.written, hinside, Option.getD_some]⟩

/-- If no entry has a repository of its own, compiling a base grammar that is at hand is refused
exactly if a rule that can be reached has a pattern which quotes nothing and which the engine
refuses; the refusal names such a pattern, with the reason of the engine.  Otherwise there is a
grammar. -/
theorem Grammar.refused_iff_hasBroken (hengine : engine.AcceptsUnmatchable)
    (hbase : (Dictionary.find? lib.base lib.documents).isSome) :
    ((∃ error, Grammar.compile engine lib = .error error) ↔
      ∃ source reason, lib.HasBroken engine IsGroupNumber source reason) ∧
    (∀ error, Grammar.compile engine lib = .error error →
      lib.HasBroken engine IsGroupNumber error.source error.reason) ∧
    ((¬ ∃ source reason, lib.HasBroken engine IsGroupNumber source reason) →
      ∃ g, Grammar.compile engine lib = .ok (some g)) := by
  obtain ⟨d, hd⟩ := Option.isSome_iff_exists.1 hbase
  have hroot : lib.root lib.base = some (.root lib.base d) := by
    rw [Library.root, hd, Option.map_some]
  have hnames : ∀ error p source, lib.Reaches p → .check source ∈ p.tasks lib →
      Pattern.read engine source = .error error →
        lib.HasBroken engine IsGroupNumber error.source error.reason := by
    intro error p source hp hsource hread
    obtain ⟨rfl, hplain, hrefused⟩ := Pattern.read_eq_error_iff.1 hread
    obtain ⟨path, e, around, rfl, hmem⟩ := Part.check_mem_tasks_iff.1 hsource
    refine ⟨around.scope, e, hp.isUsed hinner hkeyed, ?_, hplain, hrefused⟩
    rcases e.sources_eq with hsame | hmissing
    · exact hsame ▸ hmem
    · rw [hmissing] at hmem
      rcases List.mem_append.1 hmem with hmem | hend
      · exact hmem
      · -- The pattern for a missing end is accepted.
        obtain ⟨regex, hregex⟩ := hengine
        rw [List.mem_singleton.1 hend, hregex] at hrefused
        cases hrefused
  rcases lib.refused_or_compiled engine hroot with
    ⟨error, herror, p, source, hp, hsource, hread⟩ | ⟨g, parts, hok, hcompiled⟩
  · have hbroken := hnames error p source hp hsource hread
    refine ⟨⟨fun _ => ⟨_, _, hbroken⟩, fun _ => ⟨error, herror⟩⟩, ?_, ?_⟩
    · intro other hother
      obtain rfl := Except.error.inj (herror.symm.trans hother)
      exact hbroken
    · intro hnone
      exact absurd ⟨_, _, hbroken⟩ hnone
  · have hnone : ¬ ∃ source reason, lib.HasBroken engine IsGroupNumber source reason := by
      rintro ⟨source, reason, scope, e, huse, hmem, hplain, hrefused⟩
      obtain ⟨_, hp, path, around, rfl, _⟩ := huse.exists_part hinner hkeyed
      have hsource : .check source ∈ (Part.entry path e around).tasks lib := by
        refine Part.check_mem_tasks_iff.2 ⟨path, e, around, rfl, ?_⟩
        rcases e.sources_eq with hsame | hmissing
        · exact hsame ▸ hmem
        · exact hmissing ▸ List.mem_append_left _ hmem
      obtain ⟨pattern, hread⟩ := hcompiled.checks_passed hinner hkeyed hp hsource
      have hfails : Pattern.read engine source = .error ⟨source, reason⟩ :=
        Pattern.read_eq_error_iff.2 ⟨rfl, hplain, hrefused⟩
      cases hfails.symm.trans hread
    refine ⟨iff_of_false ?_ hnone, ?_, fun _ => ⟨g, hok⟩⟩
    · rintro ⟨error, herror⟩
      cases hok.symm.trans herror
    · intro error herror
      cases hok.symm.trans herror

end Pieces

/-! ## A broken pattern inside a capture -/

namespace Sample

/-- Its only pattern is a parenthesis that is never closed. -/
def brokenCapture : Entry :=
  { Entry.blank with patterns := some [{ Entry.blank with matchSource := some "(" }] }

/-- A match with this capture. -/
def capturingEntry (key : String) : Entry :=
  { Entry.blank with matchSource := some "a", captures := some [(key, brokenCapture)] }

/-- The document with this match. -/
def capturingDocument (key : String) : Document :=
  { Document.blank with patterns := [capturingEntry key] }

/-- The library of this document. -/
def capturing (key : String) : Library := ⟨[("s", capturingDocument key)], "s"⟩

theorem capturing_wellFormed {key : String} (h : key = "0" ∨ key = "x") :
    (capturing key).HasNoInnerRepository ∧ (capturing key).CapturesKeyed := by
  have hlevels : ∀ p ∈ (capturing key).documents, p.2.level 3 = [] ∧
      ∀ n < 3, ∀ e ∈ p.2.level n, e.repository.isNone = true := by
    rcases h with rfl | rfl <;> decide
  have hkeys : ∀ p ∈ (capturing key).documents, p.2.level 3 = [] ∧ ∀ n < 3, ∀ e ∈ p.2.level n,
      ∀ which ∈ [CaptureMap.whole, .first, .last, .condition],
        ((e.captureMap which).map Prod.fst).Nodup := by
    rcases h with rfl | rfl <;> decide
  refine ⟨?_, Library.capturesKeyed_of_levels 3 hkeys⟩
  intro scope d hd path e he
  exact Option.isNone_iff_eq_none.1 (Library.forall_entryAt? 3 hlevels scope d hd path e he)

theorem compile_letter : ∃ regex, Regex.engine.compile "a" = .ok regex := by
  have hok : (Regex.engine.compile "a").toBool = true := by
    decide +kernel
  cases hresult : Regex.engine.compile "a" with
  | ok regex => exact ⟨regex, rfl⟩
  | error reason =>
      rw [hresult] at hok
      cases hok

theorem compile_parenthesis : ∃ reason, Regex.engine.compile "(" = .error reason := by
  have hrefused : (Regex.engine.compile "(").toBool = false := by
    decide +kernel
  cases hresult : Regex.engine.compile "(" with
  | error reason => exact ⟨reason, rfl⟩
  | ok regex =>
      rw [hresult] at hrefused
      cases hrefused

/-- Under a key that is no number the capture is passed over. -/
theorem reaches_capturing {p : Part} (h : (capturing "x").Reaches p) :
    p = .root "s" (capturingDocument "x") ∨
      p = .entry [.pattern 0] (capturingEntry "x") ((capturingDocument "x").surroundings "s") := by
  induction h with
  | base hroot => exact Or.inl (Option.some.inj hroot).symm
  | @step p q _ htask ih =>
      rcases ih with rfl | rfl
      · have htasks : (Part.root "s" (capturingDocument "x")).tasks (capturing "x") =
            [.visit (.entry [.pattern 0] (capturingEntry "x")
              ((capturingDocument "x").surroundings "s"))] := rfl
        rw [htasks] at htask
        exact Or.inr (Part.Task.visit.inj (List.mem_singleton.1 htask))
      · have htasks : (Part.entry [.pattern 0] (capturingEntry "x")
            ((capturingDocument "x").surroundings "s")).tasks (capturing "x") =
              [.check "a"] := rfl
        rw [htasks] at htask
        cases List.mem_singleton.1 htask

end Sample

namespace Grammar

/-- Under the number of a group the capture counts. -/
theorem sample_refused_iff_hasBroken :
    (Sample.capturing "0").HasNoInnerRepository ∧ (Sample.capturing "0").CapturesKeyed ∧
    Regex.engine.AcceptsUnmatchable ∧
    (Dictionary.find? (Sample.capturing "0").base (Sample.capturing "0").documents).isSome ∧
    ((∃ error, Grammar.compile Regex.engine (Sample.capturing "0") = .error error) ↔
      ∃ source reason,
        (Sample.capturing "0").HasBroken Regex.engine IsGroupNumber source reason) ∧
    (∀ error, Grammar.compile Regex.engine (Sample.capturing "0") = .error error →
      (Sample.capturing "0").HasBroken Regex.engine IsGroupNumber error.source error.reason) ∧
    ((¬ ∃ source reason,
        (Sample.capturing "0").HasBroken Regex.engine IsGroupNumber source reason) →
      ∃ g, Grammar.compile Regex.engine (Sample.capturing "0") = .ok (some g)) := by
  obtain ⟨hinner, hkeyed⟩ := Sample.capturing_wellFormed (Or.inl rfl)
  exact ⟨hinner, hkeyed, Sample.engine_acceptsUnmatchable, rfl,
    refused_iff_hasBroken hinner hkeyed Sample.engine_acceptsUnmatchable rfl⟩

/-- Under any other key it does not: the grammar is compiled, though a capture in use has a broken
pattern. -/
theorem capture_without_number :
    (Sample.capturing "x").HasNoInnerRepository ∧ (Sample.capturing "x").CapturesKeyed ∧
    Regex.engine.AcceptsUnmatchable ∧
    (Dictionary.find? (Sample.capturing "x").base (Sample.capturing "x").documents).isSome ∧
    ¬ ((∃ error, Grammar.compile Regex.engine (Sample.capturing "x") = .error error) ↔
      ∃ source reason,
        (Sample.capturing "x").HasBroken Regex.engine (fun _ => True) source reason) := by
  obtain ⟨hinner, hkeyed⟩ := Sample.capturing_wellFormed (Or.inr rfl)
  refine ⟨hinner, hkeyed, Sample.engine_acceptsUnmatchable, rfl, fun hiff => ?_⟩
  obtain ⟨reason, hreason⟩ := Sample.compile_parenthesis
  have hbroken : (Sample.capturing "x").HasBroken Regex.engine (fun _ => True) "(" reason := by
    have hlist : (Sample.capturing "x").Uses (fun _ => True) "s"
        (.list (Sample.capturingDocument "x").patterns) := .base rfl
    have hrule := hlist.own List.mem_cons_self rfl rfl
    have hmap : [("x", Sample.brokenCapture)] ∈ (Sample.capturingEntry "x").mapsInUse :=
      List.mem_cons_self
    have hcapture := hrule.captured hmap List.mem_cons_self trivial rfl
    exact ⟨_, _, hcapture.own List.mem_cons_self rfl rfl, List.mem_cons_self, by decide, hreason⟩
  obtain ⟨error, herror⟩ := hiff.2 ⟨_, _, hbroken⟩
  rcases Library.refused_or_compiled Regex.engine
      (show (Sample.capturing "x").root "s" = some _ from rfl) with
    ⟨_, _, p, source, hp, hsource, hread⟩ | ⟨_, _, hok, _⟩
  · -- The only check is that of the match.
    obtain ⟨path, e, around, rfl, hmem⟩ := Part.check_mem_tasks_iff.1 hsource
    rcases Sample.reaches_capturing hp with hroot | hrule
    · cases hroot
    · cases hrule
      obtain ⟨regex, hregex⟩ := Sample.compile_letter
      obtain ⟨_, _, hrefused⟩ := Pattern.read_eq_error_iff.1 hread
      rw [List.mem_singleton.1 hmem, hregex] at hrefused
      cases hrefused
  · cases hok.symm.trans herror

end Grammar

end ScopeCheck
