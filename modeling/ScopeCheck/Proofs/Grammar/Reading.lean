import Mathlib.Data.List.Permutation
import ScopeCheck.Proofs.Grammar.Places
import ScopeCheck.Proofs.Rule.Unfolding
import ScopeCheck.Proofs.Engine

/-!
# Reading patterns where they are written

`Library.reading` reads a list of patterns from the documents alone: an include is replaced by what
it names, an entry that neither matches nor begins anything by its patterns, and what is being
replaced already is cut.  Which entry `#name` denotes is left to a `Naming`.

* `Part.patterns_meaning`: the parts that a list of patterns stands for mean what is read there, as
  long as names are looked up with the same result (`Part.Follows`);
* `CompiledFrom.unfold_eq_reading`: then unfolding the rules of a compiled grammar is reading its
  documents;
* `CompiledFrom.entriesOf_eq_reading`: what is tried inside a rule is what is read, each rule where
  it stands first.

When no entry has a repository of its own there is only one repository to look a name up in.  For
such libraries `Grammar.compile_preserves_includes` says that nothing is lost or moved.
-/

namespace ScopeCheck

variable {ρ : Type} {engine : RegexEngine ρ} {lib : Library}

/-! ## What is read -/

/-- What stands in a list of patterns. -/
inductive Meaning
  /-- Something that is matched or begun. -/
  | rule (place : Place)
  /-- Only patterns, with the key of what they are written in. -/
  | container (key : Key) (entries : List Entry)

/-- What an entry stands for if its own include is left aside. -/
def Entry.meaning? (place : Place) (e : Entry) : Option Meaning :=
  if e.isOff then none
  else if e.matchSource.isSome || e.beginSource.isSome then some (.rule place)
  else some (.container (.entry place) (e.patterns.getD []))

/-- The entry that a name denotes in the patterns of a place, with the steps to it. -/
abbrev Naming := Place → String → Option (List Step × Entry)

namespace Library

/-- A grammar stands for its patterns. -/
def grammarMeaning? (lib : Library) (scope : String) : Option Meaning :=
  (Dictionary.find? scope lib.documents).map fun d => .container (.root scope) d.patterns

/-- What an entry stands for in the patterns of `owner`, where it is the one with number `i`. -/
def meaning? (lib : Library) (naming : Naming) (owner : Place) (i : Nat) (e : Entry) :
    Option Meaning :=
  match e.reference with
  | none => e.meaning? ⟨owner.scope, .pattern i :: owner.path⟩
  | some text =>
    match Target.ofText text with
    | .self => lib.grammarMeaning? owner.scope
    | .base => lib.grammarMeaning? lib.base
    | .grammar scope => lib.grammarMeaning? scope
    | .named name => (naming owner name).bind fun r => r.2.meaning? ⟨owner.scope, r.1⟩
    | .entryOf scope name =>
      (Dictionary.find? scope lib.documents).bind fun d =>
        (Dictionary.find? name d.repository).bind fun e => e.meaning? ⟨scope, [.repository name]⟩

/-- What a list of patterns stands for, without what stands for nothing. -/
def meanings (lib : Library) (naming : Naming) (owner : Place) (entries : List Entry) :
    List Meaning :=
  (entries.mapIdx fun i e => lib.meaning? naming owner i e).filterMap id

/-- Reads from the left.  `unopened` are the containers that are not being replaced by their
patterns; any other one is cut. -/
def reading (lib : Library) (naming : Naming) (unopened : List Key) (pending : List Meaning) :
    List Place :=
  match pending with
  | [] => []
  | .rule place :: pending => place :: reading lib naming unopened pending
  | .container key entries :: pending =>
    if h : key ∈ unopened then
      have := length_without_lt h
      reading lib naming (without key unopened) (lib.meanings naming key.place entries) ++
        reading lib naming unopened pending
    else reading lib naming unopened pending
termination_by (unopened.length, pending.length)
decreasing_by
  all_goals simp_wf
  · exact Prod.Lex.right _ (by simp)
  · exact Prod.Lex.left _ _ this
  · exact Prod.Lex.right _ (by simp)
  · exact Prod.Lex.right _ (by simp)

/-- Reads the patterns of a place, with nothing being replaced yet: a list of patterns is no
container itself, so those of a grammar are replaced once where the grammar includes itself. -/
def readingAt (lib : Library) (naming : Naming) (place : Place) : List Place :=
  lib.reading naming lib.keys (lib.meanings naming place (lib.patternsAt place))

end Library

/-! ## Parts and what they mean -/

namespace Part

variable {naming : Naming} {p q : Part}

/-- What a part stands for in a list of patterns. -/
def meaning : Part → Meaning
  | root scope d => .container (.root scope) d.patterns
  | entry path e around =>
    if e.matchSource.isSome || e.beginSource.isSome then .rule ⟨around.scope, path⟩
    else .container (.entry ⟨around.scope, path⟩) (e.patterns.getD [])
  | contents which path e around =>
    .container (.contents which ⟨around.scope, path⟩) (e.patterns.getD [])

/-- The names of a part are looked up with the same result as where they are written. -/
def Follows (naming : Naming) (p : Part) : Prop :=
  ∀ (i : Nat) (e : Entry) (text name : String), p.written.2[i]? = some e →
    e.reference = some text → Target.ofText text = .named name →
      findNamed name p.inner.repositories = naming p.key.place name

theorem enabled_meaning (path : List Step) (e : Entry) (around : Surroundings) :
    (Library.enabled path e around).map Part.meaning = e.meaning? ⟨around.scope, path⟩ := by
  unfold Library.enabled Entry.meaning?
  by_cases hoff : e.isOff
  · simp [hoff]
  · by_cases hrule : (e.matchSource.isSome || e.beginSource.isSome) = true
    · simp [hoff, hrule, meaning]
    · simp [hoff, hrule, meaning]

theorem root_meaning (lib : Library) (scope : String) :
    (lib.root scope).map Part.meaning = lib.grammarMeaning? scope := by
  unfold Library.root Library.grammarMeaning?
  rw [Option.map_map]
  rfl

theorem standsFor_meaning (hfollows : p.Follows naming) {i : Nat} {e : Entry}
    (he : p.written.2[i]? = some e) :
    (lib.standsFor p.inner (.pattern i :: p.written.1) e).map Part.meaning =
      lib.meaning? naming p.key.place i e := by
  unfold Library.standsFor Library.meaning?
  cases hreference : e.reference with
  | none => simp only [enabled_meaning, inner_scope, written_path]
  | some text =>
      cases htarget : Target.ofText text with
      | self => simp only [htarget, Library.included, root_meaning, inner_scope]
      | base => simp only [htarget, Library.included, root_meaning]
      | grammar scope => simp only [htarget, Library.included, root_meaning]
      | named name =>
          simp only [htarget, Library.included, hfollows i e text name he hreference htarget]
          cases naming p.key.place name with
          | none => rfl
          | some found => simp only [Option.bind_some, enabled_meaning, inner_scope]
      | entryOf scope name =>
          simp only [htarget, Library.included]
          cases Dictionary.find? scope lib.documents with
          | none => rfl
          | some d =>
              simp only [Option.bind_some]
              cases Dictionary.find? name d.repository with
              | none => rfl
              | some own => simp only [Option.bind_some, enabled_meaning, Document.surroundings]

/-- The parts that a list of patterns stands for mean what is read there. -/
theorem patterns_meaning (hfollows : p.Follows naming) :
    (p.patterns lib).map Part.meaning = lib.meanings naming p.key.place p.written.2 := by
  unfold Part.patterns Library.listed Library.meanings
  -- One by one: meanings are taken before or after what stands for nothing is left out.
  have heach : (p.written.2.mapIdx fun i e =>
      lib.standsFor p.inner (.pattern i :: p.written.1) e).map (Option.map Part.meaning) =
        p.written.2.mapIdx fun i e => lib.meaning? naming p.key.place i e := by
    apply List.ext_getElem?
    intro i
    simp only [List.getElem?_map, List.getElem?_mapIdx]
    cases he : p.written.2[i]? with
    | none => rfl
    | some e => simp only [Option.map_some, standsFor_meaning hfollows he]
  rw [← heach, List.filterMap_map, List.map_filterMap]
  rfl

/-- At one place of a library there is one entry. -/
theorem entry_unique {around around' : Surroundings} {path : List Step} {e e' : Entry}
    {d d' : Document} (hscope : around.scope = around'.scope) (haround : around.Of lib d)
    (haround' : around'.Of lib d') (he : d.entryAt? path = some e)
    (he' : d'.entryAt? path = some e') : e = e' := by
  have hdocument := haround.document
  rw [hscope, haround'.document] at hdocument
  obtain rfl : d' = d := Option.some.inj hdocument
  exact Option.some.inj (he.symm.trans he')

/-- A part means what is written at its place. -/
theorem meaning_eq_of_key (hp : p.IsWritten lib) (hq : q.IsWritten lib) (h : p.key = q.key) :
    p.meaning = q.meaning := by
  cases p with
  | root scope d =>
      cases q with
      | root scope' d' =>
          obtain rfl := Key.root.inj h
          obtain rfl : d = d' := Option.some.inj (hp.symm.trans hq)
          rfl
      | entry path e around => cases h
      | contents which path e around => cases h
  | entry path e around =>
      cases q with
      | entry path' e' around' =>
          obtain ⟨hscope, rfl⟩ := Place.mk.inj (Key.entry.inj h)
          obtain ⟨d, haround, he⟩ := hp
          obtain ⟨d', haround', he'⟩ := hq
          obtain rfl := entry_unique hscope haround haround' he he'
          simp only [meaning, hscope]
      | root scope d => cases h
      | contents which path e around => cases h
  | contents which path e around =>
      cases q with
      | contents which' path' e' around' =>
          obtain ⟨rfl, hplace⟩ := Key.contents.inj h
          obtain ⟨hscope, rfl⟩ := Place.mk.inj hplace
          obtain ⟨d, haround, he⟩ := hp
          obtain ⟨d', haround', he'⟩ := hq
          obtain rfl := entry_unique hscope haround haround' he he'
          simp only [meaning, hscope]
      | root scope d => cases h
      | entry path e around => cases h

end Part

/-! ## Rules and what is read -/

theorem Rule.patterns_of_contents? {r : Rule ρ} {contents : List RuleIndex}
    (h : r.contents? = some contents) : r.patterns = contents := by
  unfold Rule.contents? at h
  split at h
  · rename_i patterns hform
    rw [Rule.patterns, hform]
    exact Option.some.inj h
  · cases h

/-- An entry only stands for its patterns if it has neither a match nor a begin. -/
theorem Entry.shape_eq_container_iff (e : Entry) :
    e.shape = .container ↔ (e.matchSource.isSome || e.beginSource.isSome) = false := by
  unfold Entry.shape
  cases e.matchSource with
  | some source => simp
  | none =>
      cases e.beginSource with
      | none => simp
      | some first => cases e.whileSource <;> simp

namespace Part

variable {numbers : Numbering} {p : Part} {r : Rule ρ}

/-- What is matched or begun becomes a rule of its own. -/
theorem contents?_of_meaning_rule (h : p.rule engine lib numbers = .ok r) {place : Place}
    (hmeaning : p.meaning = .rule place) : r.contents? = none ∧ p.key = .entry place := by
  cases p with
  | root scope d => cases hmeaning
  | contents which path e around => cases hmeaning
  | entry path e around =>
      rw [meaning] at hmeaning
      split at hmeaning
      · rename_i hrule
        obtain rfl := Meaning.rule.inj hmeaning
        refine ⟨?_, rfl⟩
        have hform := Part.rule_form h
        cases hshape : e.shape with
        | container =>
            rw [Entry.shape_eq_container_iff, hrule] at hshape
            cases hshape
        | single source =>
            simp only [hshape] at hform
            obtain ⟨own, _, hform⟩ := hform
            simp [Rule.contents?, hform]
        | region first last =>
            simp only [hshape] at hform
            obtain ⟨begins, ends, _, _, hform⟩ := hform
            simp [Rule.contents?, hform]
        | during first condition =>
            simp only [hshape] at hform
            obtain ⟨begins, holds, _, _, hform⟩ := hform
            simp [Rule.contents?, hform]
      · cases hmeaning

/-- What only stands for patterns becomes a container of them. -/
theorem contents?_of_meaning_container (h : p.rule engine lib numbers = .ok r) {key : Key}
    {entries : List Entry} (hmeaning : p.meaning = .container key entries) :
    r.contents? = some ((p.patterns lib).filterMap fun q => numbers q.key) ∧ p.key = key ∧
      p.written.2 = entries := by
  cases p with
  | root scope d =>
      obtain ⟨rfl, rfl⟩ := Meaning.container.inj hmeaning
      rw [rule_of_not_entry h (by simp)]
      exact ⟨rfl, rfl, rfl⟩
  | contents which path e around =>
      obtain ⟨rfl, rfl⟩ := Meaning.container.inj hmeaning
      rw [rule_of_not_entry h (by simp)]
      exact ⟨rfl, rfl, rfl⟩
  | entry path e around =>
      rw [meaning] at hmeaning
      split at hmeaning
      · cases hmeaning
      · rename_i hcontainer
        obtain ⟨rfl, rfl⟩ := Meaning.container.inj hmeaning
        have hshape := e.shape_eq_container_iff.2 (Bool.eq_false_iff.2 hcontainer)
        have hform := Part.rule_form h
        simp only [hshape] at hform
        refine ⟨?_, rfl, ?_⟩
        · rw [Rule.contents?, hform]
        · rw [written, hshape]

/-- The rule of a part is tried with its patterns. -/
theorem patterns_of_rule (h : p.rule engine lib numbers = .ok r) :
    r.patterns = (p.patterns lib).filterMap fun q => numbers q.key := by
  cases p with
  | root scope d =>
      rw [rule_of_not_entry h (by simp)]
      rfl
  | contents which path e around =>
      rw [rule_of_not_entry h (by simp)]
      rfl
  | entry path e around =>
      have hform := Part.rule_form h
      cases hshape : e.shape with
      | container =>
          simp only [hshape] at hform
          rw [Rule.patterns, hform]
      | single source =>
          simp only [hshape] at hform
          obtain ⟨own, _, hform⟩ := hform
          have hnone : (Part.entry path e around).patterns lib = [] := by
            simp [Part.patterns, written, hshape, Library.listed]
          rw [Rule.patterns, hform, hnone]
          rfl
      | region first last =>
          simp only [hshape] at hform
          obtain ⟨begins, ends, _, _, hform⟩ := hform
          rw [Rule.patterns, hform]
      | during first condition =>
          simp only [hshape] at hform
          obtain ⟨begins, holds, _, _, hform⟩ := hform
          rw [Rule.patterns, hform]

end Part

/-- What the rule with a number is known by. -/
def keyAt (parts : List Part) (id : RuleIndex) : Option Key := (parts[id]?).map Part.key

/-- The number of the rule of a part, if it has one. -/
def numberOf (parts : List Part) (q : Part) : RuleIndex := (numbering parts q.key).getD 0

/-- What is tried in the base grammar and in every region are the rules that are read in their
patterns, where they are written, each where it stands first.  The rules come from these parts. -/
structure Grammar.Reads (engine : RegexEngine ρ) (lib : Library) (naming : Naming) (g : Grammar ρ)
    (parts : List Part) : Prop where
  compiled : g.CompiledFrom engine lib parts
  written : ∀ p ∈ parts, p.IsWritten lib
  root : keyAt parts g.root = some (.root lib.base)
  entries : ∀ id key, keyAt parts id = some key → id = g.root ∨ (g.rule id).closing? ≠ none →
    (g.entriesOf id).map (keyAt parts) =
      (lib.readingAt naming key.place).eraseDups.map fun place => some (.entry place)

namespace Grammar.CompiledFrom

variable {naming : Naming} {g : Grammar ρ} {parts : List Part} {p : Part} {id : RuleIndex}

theorem filterMap_numbering {ps : List Part}
    (hps : ∀ q ∈ ps, ∃ id, numbering parts q.key = some id) :
    (ps.filterMap fun q => numbering parts q.key) = ps.map (numberOf parts) := by
  induction ps with
  | nil => rfl
  | cons q ps ih =>
      obtain ⟨id, hid⟩ := hps q List.mem_cons_self
      have ih := ih fun q hq => hps q (List.mem_cons_of_mem _ hq)
      simp [hid, ih, numberOf]

/-- Rules with different keys are different. -/
theorem keyAt_inj {key key' : Key} {a b : RuleIndex} (ha : numbering parts key = some a)
    (hb : numbering parts key' = some b) (h : keyAt parts a = keyAt parts b) : a = b := by
  obtain ⟨q, hq, rfl⟩ := key_of_numbering ha
  obtain ⟨q', hq', rfl⟩ := key_of_numbering hb
  rw [keyAt, keyAt, hq, hq', Option.map_some, Option.map_some] at h
  rw [← Option.some.inj h, ha] at hb
  exact Option.some.inj hb

/-- Rules only refer to the rules of parts, -/
theorem numbered_of_mem_patterns (h : g.CompiledFrom engine lib parts) (id : RuleIndex) :
    ∀ inner ∈ (g.rule id).patterns, ∃ key, numbering parts key = some inner := by
  intro inner hinner
  cases hp : parts[id]? with
  | none =>
      rw [h.rule_eq_blank hp] at hinner
      cases hinner
  | some p =>
      rw [Part.patterns_of_rule (h.rule hp)] at hinner
      obtain ⟨q, _, hq⟩ := List.mem_filterMap.1 hinner
      exact ⟨q.key, hq⟩

/-- and no others are found when they are unfolded. -/
theorem numbered_of_mem_unfold (h : g.CompiledFrom engine lib parts) (id : RuleIndex)
    (unopened : List RuleIndex) : ∀ inner ∈ g.rules.unfold unopened (g.rule id).patterns,
      ∃ key, numbering parts key = some inner := by
  refine Rules.forall_mem_unfold ?_ (h.numbered_of_mem_patterns id)
  intro container contents hcontents
  rw [← Rule.patterns_of_contents? hcontents]
  exact h.numbered_of_mem_patterns container

section Read

variable (hkeyed : lib.CapturesKeyed) (h : g.CompiledFrom engine lib parts)

include hkeyed h

/-- The parts that a part is tried with are written somewhere, and have numbers. -/
theorem patterns_numbered (hp : p ∈ parts) :
    ∀ q ∈ p.patterns lib, q.IsWritten lib ∧ ∃ id, numbering parts q.key = some id := by
  intro q hq
  obtain ⟨id, _, hid, _, _⟩ := h.number_of_mem_patterns hkeyed hp hq
  exact ⟨(Part.leads_of_mem_patterns hq).isWritten hkeyed (h.isWritten hkeyed p hp), id, hid⟩

/-- The first of some rules was made of a part that means what the first of their parts does. -/
theorem head_part {pending : List RuleIndex} {ps : List Part}
    (hps : ∀ q ∈ ps, q.IsWritten lib ∧ ∃ n, numbering parts q.key = some n)
    (hpending : id :: pending = ps.map (numberOf parts)) :
    ∃ q rest, ps = q :: rest ∧ pending = rest.map (numberOf parts) ∧
      numbering parts q.key = some id ∧
      ∃ q' ∈ parts, keyAt parts id = some q'.key ∧ q'.key = q.key ∧ q'.meaning = q.meaning ∧
        q'.rule engine lib (numbering parts) = .ok (g.rule id) := by
  obtain ⟨q, rest, rfl, hnumber, hrest⟩ := List.map_eq_cons_iff.1 hpending.symm
  obtain ⟨hwritten, n, hn⟩ := hps q List.mem_cons_self
  obtain rfl : n = id := by simpa [numberOf, hn] using hnumber
  obtain ⟨q', hq', hkey⟩ := key_of_numbering hn
  have hmem := List.mem_of_getElem? hq'
  have hmeaning := Part.meaning_eq_of_key (h.isWritten hkeyed q' hmem) hwritten hkey
  refine ⟨q, rest, rfl, hrest.symm, hn, q', hmem, ?_, hkey, hmeaning, h.rule hq'⟩
  rw [keyAt, hq', Option.map_some]

/-- Unfolding rules is reading what they were written as.  The induction is on what is unfolded; a
rule and its key are opened together, so both sides cut at the same places. -/
theorem unfold_eq_reading (hfollows : ∀ p ∈ parts, p.Follows naming)
    {unopened pending : List RuleIndex} {keys : List Key} {ps : List Part}
    (hopen : ∀ key n, numbering parts key = some n → (n ∈ unopened ↔ key ∈ keys))
    (hps : ∀ q ∈ ps, q.IsWritten lib ∧ ∃ n, numbering parts q.key = some n)
    (hpending : pending = ps.map (numberOf parts)) :
    (g.rules.unfold unopened pending).map (keyAt parts) =
      (lib.reading naming keys (ps.map Part.meaning)).map fun place => some (.entry place) := by
  fun_induction g.rules.unfold unopened pending generalizing keys ps with
  | case1 unopened =>
      obtain rfl := List.map_eq_nil_iff.1 hpending.symm
      simp [Library.reading]
  | case2 unopened id pending hleaf ih =>
      obtain ⟨q, rest, rfl, hrest, _, q', _, hat, _, hmeaning, hrule⟩ :=
        head_part hkeyed h hps hpending
      have ih := ih hopen (fun q hq => hps q (List.mem_cons_of_mem _ hq)) hrest
      cases hm : q.meaning with
      | rule place =>
          obtain ⟨_, hplace⟩ := Part.contents?_of_meaning_rule hrule (hmeaning.trans hm)
          rw [List.map_cons, List.map_cons, hm, Library.reading, List.map_cons, ih, hat, hplace]
      | container key entries =>
          -- A container has contents.
          obtain ⟨hcontents, _, _⟩ :=
            Part.contents?_of_meaning_container hrule (hmeaning.trans hm)
          exact absurd (hcontents.symm.trans hleaf) (by simp)
  | case3 unopened id pending contents hcontents hid _ ihcontents ihpending =>
      obtain ⟨q, rest, rfl, hrest, hn, q', hq', _, hkey, hmeaning, hrule⟩ :=
        head_part hkeyed h hps hpending
      have ihpending := ihpending hopen (fun q hq => hps q (List.mem_cons_of_mem _ hq)) hrest
      cases hm : q.meaning with
      | rule place =>
          obtain ⟨hnone, _⟩ := Part.contents?_of_meaning_rule hrule (hmeaning.trans hm)
          exact absurd (hcontents.symm.trans hnone) (by simp)
      | container key entries =>
          obtain ⟨hsome, hqkey, hentries⟩ :=
            Part.contents?_of_meaning_container hrule (hmeaning.trans hm)
          obtain rfl : q.key = key := hkey.symm.trans hqkey
          have hnumbered := patterns_numbered hkeyed h hq'
          obtain rfl : (q'.patterns lib).map (numberOf parts) = contents := by
            rw [← filterMap_numbering fun q hq => (hnumbered q hq).2]
            exact Option.some.inj (hsome.symm.trans hcontents)
          have hwithout : ∀ key m, numbering parts key = some m →
              (m ∈ without id unopened ↔ key ∈ without q.key keys) := by
            intro key m hnumber
            -- Numbers and keys are exchangeable.
            have hiff : m = id ↔ key = q.key := by
              constructor
              · rintro rfl
                exact numbering_inj hnumber hn
              · rintro rfl
                exact Option.some.inj (hnumber.symm.trans hn)
            rw [mem_without, mem_without, hopen key m hnumber, Ne, Ne, hiff]
          have hinside := ihcontents hwithout hnumbered rfl
          have hread : q.key ∈ keys := (hopen q.key id hn).1 hid
          rw [List.map_cons, hm, Library.reading, dif_pos hread, List.map_append,
            List.map_append, ihpending, hinside, Part.patterns_meaning (hfollows q' hq'),
            hentries, hqkey]
  | case4 unopened id pending contents hcontents hid ih =>
      obtain ⟨q, rest, rfl, hrest, hn, q', _, _, hkey, hmeaning, hrule⟩ :=
        head_part hkeyed h hps hpending
      have ih := ih hopen (fun q hq => hps q (List.mem_cons_of_mem _ hq)) hrest
      cases hm : q.meaning with
      | rule place =>
          obtain ⟨hnone, _⟩ := Part.contents?_of_meaning_rule hrule (hmeaning.trans hm)
          exact absurd (hcontents.symm.trans hnone) (by simp)
      | container key entries =>
          obtain ⟨_, hqkey, _⟩ :=
            Part.contents?_of_meaning_container hrule (hmeaning.trans hm)
          obtain rfl : q.key = key := hkey.symm.trans hqkey
          have hcut : q.key ∉ keys := fun hkeys => hid ((hopen q.key id hn).2 hkeys)
          rw [List.map_cons, hm, Library.reading, dif_neg hcut, ih]

/-- What is tried inside a rule is what is read of the patterns of its part, each rule where it
stands first. -/
theorem entriesOf_eq_reading (hfollows : ∀ p ∈ parts, p.Follows naming)
    (hp : parts[id]? = some p) :
    (g.entriesOf id).map (keyAt parts) =
      (lib.reading naming lib.keys (lib.meanings naming p.key.place p.written.2)).eraseDups.map
        fun place => some (.entry place) := by
  have hmem := List.mem_of_getElem? hp
  have hnumbered := patterns_numbered hkeyed h hmem
  -- Nothing has been opened at first, neither a rule nor a key.
  have hopen : ∀ key n, numbering parts key = some n →
      (n ∈ List.range g.rules.size ↔ key ∈ lib.keys) := by
    intro key n hn
    obtain ⟨q, hq, rfl⟩ := key_of_numbering hn
    have hlt : n < g.rules.size := h.size_eq ▸ (List.getElem?_eq_some_iff.1 hq).1
    have hkey := (h.isWritten hkeyed q (List.mem_of_getElem? hq)).key_mem_keys
    simp [hlt, hkey]
  have hpending : (g.rule id).patterns = (p.patterns lib).map (numberOf parts) := by
    rw [Part.patterns_of_rule (h.rule hp), filterMap_numbering fun q hq => (hnumbered q hq).2]
  have hread := unfold_eq_reading hkeyed h hfollows hopen hnumbered hpending
  -- Keys tell rules apart, and places tell keys apart, so first occurrences are kept.
  have hnumbers := h.numbered_of_mem_unfold id (List.range g.rules.size)
  rw [h.entriesOf id, Rules.expand_eq_unfold, ← eraseDups_map ?_, hread,
    eraseDups_map fun a _ b _ hab => Key.entry.inj (Option.some.inj hab),
    Part.patterns_meaning (hfollows p hmem)]
  intro a ha b hb hsame
  obtain ⟨_, ha⟩ := hnumbers a ha
  obtain ⟨_, hb⟩ := hnumbers b hb
  exact keyAt_inj ha hb hsame

end Read

/-- The patterns of the base grammar and of regions are those that are written at their places. -/
theorem written_eq (h : g.CompiledFrom engine lib parts) (hp : parts[id]? = some p)
    (hwritten : p.IsWritten lib) (hid : id = g.root ∨ (g.rule id).closing? ≠ none) :
    p.written.2 = lib.patternsAt p.key.place := by
  rcases hwritten.written_eq with hsame | ⟨path, e, around, source, rfl, hshape⟩
  · exact hsame
  · have hform := Part.rule_form (h.rule hp)
    simp only [hshape] at hform
    obtain ⟨pattern, _, hform⟩ := hform
    rcases hid with rfl | hclosing
    · obtain ⟨d, _, hroot⟩ := h.root_eq
      cases Option.some.inj (hp.symm.trans hroot)
    · simp [Rule.closing?, hform] at hclosing

theorem reads (hkeyed : lib.CapturesKeyed) (h : g.CompiledFrom engine lib parts)
    (hfollows : ∀ p ∈ parts, p.Follows naming) : g.Reads engine lib naming parts where
  compiled := h
  written := h.isWritten hkeyed
  root := by
    obtain ⟨d, _, hroot⟩ := h.root_eq
    rw [keyAt, hroot]
    rfl
  entries := by
    intro id key hkey hid
    obtain ⟨p, hp, rfl⟩ := Option.map_eq_some_iff.1 hkey
    have hwritten := h.isWritten hkeyed p (List.mem_of_getElem? hp)
    rw [h.entriesOf_eq_reading hkeyed hfollows hp, Library.readingAt,
      h.written_eq hp hwritten hid]

end Grammar.CompiledFrom

/-! ## One repository for each grammar -/

namespace Library

/-- No entry has a repository of its own. -/
def HasNoInnerRepository (lib : Library) : Prop :=
  ∀ scope d, Dictionary.find? scope lib.documents = some d →
    ∀ path e, d.entryAt? path = some e → e.repository = none

/-- A name denotes the entry of the repository of the grammar in which it is written. -/
def ownNames (lib : Library) : Naming := fun place name =>
  (Dictionary.find? place.scope lib.documents).bind fun d =>
    (Dictionary.find? name d.repository).map fun e => ([.repository name], e)

end Library

namespace Part

variable {p q : Part}

/-- The only repository around the entries of a part is that of its grammar. -/
def SeesOwnRepository (lib : Library) (p : Part) : Prop :=
  ∃ d, Dictionary.find? p.key.place.scope lib.documents = some d ∧
    p.inner.repositories = [⟨[], d.repository⟩]

theorem SeesOwnRepository.follows (h : p.SeesOwnRepository lib) : p.Follows lib.ownNames := by
  obtain ⟨d, hd, hrepositories⟩ := h
  intro i e text name _ _ _
  rw [hrepositories, findNamed, Library.ownNames, hd, Option.bind_some]
  cases Dictionary.find? name d.repository with
  | none => rfl
  | some e => rfl

theorem Leads.seesOwnRepository (hinner : lib.HasNoInnerRepository) (h : Leads lib p q)
    (hq : q.IsWritten lib) (hp : p.SeesOwnRepository lib) : q.SeesOwnRepository lib := by
  have hentry : ∀ {path e around d}, (Part.entry path e around).IsWritten lib →
      Dictionary.find? around.scope lib.documents = some d →
      around.repositories = [⟨[], d.repository⟩] →
      (Part.entry path e around).SeesOwnRepository lib := by
    intro path e around d hwritten hd hrepositories
    refine ⟨d, hd, ?_⟩
    simp only [Part.inner, hinner _ d hd path e (hwritten.entryAt? hd), hrepositories]
  obtain ⟨own, hown, hrepositories⟩ := hp
  rw [← inner_scope] at hown
  cases h with
  | grammar hd => exact ⟨_, hd, rfl⟩
  | entryOf hd hfound => exact hentry hq hd rfl
  | pattern hwritten => exact hentry hq hown hrepositories
  | named _ _ _ hfound => exact hentry hq hown hrepositories
  | capture hwritten => exact ⟨own, hown, hrepositories⟩

end Part

namespace Grammar

variable {g : Grammar ρ}

/-- If no entry has a repository of its own, names are looked up in the repository of the grammar in
which they are written. -/
theorem CompiledFrom.follows_ownNames {parts : List Part} (hinner : lib.HasNoInnerRepository)
    (hkeyed : lib.CapturesKeyed) (h : g.CompiledFrom engine lib parts) :
    ∀ p ∈ parts, p.Follows lib.ownNames := by
  have hall : ∀ p ∈ parts, p.IsWritten lib ∧ p.SeesOwnRepository lib := by
    refine h.induction (fun d hd => ⟨hd, d, hd, rfl⟩) ?_
    rintro p q ⟨hwritten, hsees⟩ hq
    have hleads := Part.leads_of_mem_tasks hq
    have hwritten := hleads.isWritten hkeyed hwritten
    exact ⟨hwritten, hleads.seesOwnRepository hinner hwritten hsees⟩
  exact fun p hp => (hall p hp).2.follows

/-- If no entry has a repository of its own, what is tried in the base grammar and in every region
is what is read in their patterns, with names that denote entries of the grammar's repository. -/
theorem compile_preserves_includes (hinner : lib.HasNoInnerRepository)
    (hkeyed : lib.CapturesKeyed) (h : Grammar.compile engine lib = .ok (some g)) :
    ∃ parts, g.Reads engine lib lib.ownNames parts := by
  obtain ⟨parts, hcompiled⟩ := Grammar.compile_eq_some h
  exact ⟨parts, hcompiled.reads hkeyed (hcompiled.follows_ownNames hinner hkeyed)⟩

end Grammar

/-! ## Two grammars that include each other -/

namespace Sample

/-- An entry that only includes something. -/
def including (text : String) : Entry := { Entry.blank with reference := some text }

/-- A grammar that includes itself from inside a region, and another grammar. -/
def host : Document :=
  let paren : Entry := { Entry.blank with
    beginSource := some "("
    endSource := some ")"
    patterns := some [including "$self", including "g#word", including "#missing"] }
  let value : Entry := { Entry.blank with
    patterns := some [paren, including "#value", { Entry.blank with matchSource := some "a" }] }
  { Document.blank with
    patterns := [including "#value", including "g"]
    repository := [("value", value)] }

/-- A grammar that includes whatever grammar is compiled. -/
def guest : Document :=
  let word : Entry := { Entry.blank with matchSource := some "w" }
  { Document.blank with
    patterns := [including "$base", { word with disabled := some (.bool true) }, including "#word"]
    repository := [("word", word)] }

def hostLibrary : Library := ⟨[("h", host), ("g", guest)], "h"⟩

/-- The grammar that is read from them. -/
def hostGrammar : Grammar (List Char) where
  scopeName := "h"
  rules :=
    let pattern := Pattern.ofSource .literal
    #[⟨none, none, .container [1, 5]⟩,
      ⟨none, none, .container [2, 1, 4]⟩,
      ⟨none, none, .region (pattern "(") [] (pattern ")") [] false [0, 3]⟩,
      ⟨none, none, .single (pattern "w") []⟩,
      ⟨none, none, .single (pattern "a") []⟩,
      ⟨none, none, .container [0, 3]⟩]
  root := 0
  entries := #[[2, 4, 3], [2, 4], [2, 4, 3], [], [], [2, 4, 3]]

theorem hostGrammar_compile : Grammar.compile .literal hostLibrary = .ok (some hostGrammar) := by
  cbv

theorem hostLibrary_hasNoInnerRepository : hostLibrary.HasNoInnerRepository := by
  have hnone : ∀ p ∈ hostLibrary.documents, p.2.level 3 = [] ∧
      ∀ n < 3, ∀ e ∈ p.2.level n, e.repository.isNone = true := by
    decide
  intro scope d hd path e he
  exact Option.isNone_iff_eq_none.1 (Library.forall_entryAt? 3 hnone scope d hd path e he)

theorem hostLibrary_capturesKeyed : hostLibrary.CapturesKeyed :=
  Library.capturesKeyed_of_levels 3 (by decide)

end Sample

/-- Where the two grammars include each other, nothing is lost or moved. -/
theorem Grammar.sample_preserves_includes :
    Sample.hostLibrary.HasNoInnerRepository ∧ Sample.hostLibrary.CapturesKeyed ∧
    Grammar.compile .literal Sample.hostLibrary = .ok (some Sample.hostGrammar) ∧
    ∃ parts, Sample.hostGrammar.Reads .literal Sample.hostLibrary Sample.hostLibrary.ownNames
      parts :=
  ⟨Sample.hostLibrary_hasNoInnerRepository, Sample.hostLibrary_capturesKeyed,
    Sample.hostGrammar_compile,
    Grammar.compile_preserves_includes Sample.hostLibrary_hasNoInnerRepository
      Sample.hostLibrary_capturesKeyed Sample.hostGrammar_compile⟩

end ScopeCheck
