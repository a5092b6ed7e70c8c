import Mathlib.Data.List.Induction
import ScopeCheck.Proofs.Grammar.Decoded
import ScopeCheck.Proofs.Grammar.Draft
import ScopeCheck.Proofs.Grammar.Requested

/-!
# What stands in the table of rules

Compiling ends for every library, whatever its grammars include: the table can be filled
(`Drafts`) in exactly one way.  `Grammar.Table` says what is in it then.

* Each grammar and entry that is met has one slot, at whatever place and however often it is
  included; entries that are switched off and includes have none.  The patterns of a capture have
  one slot for each use of the capture, as one of the begin or as one of the end.
* `Part.Dictates`: what a grammar, an entry or the patterns of a capture say about the rule in their
  slot.  Other rules are named by the keys of their slots, and each of these has one.
* `GroupRules.Of`: the same for captures, where the last one of a number counts.

`Library.Keyed.compile_fills_slots` is the statement about all of this.
-/

namespace ScopeCheck

variable {ρ : Type} {engine : RegexEngine ρ} {lib : Library}

/-! ## Rules for groups -/

namespace GroupRules

variable {number n : Nat} {rule r : GroupRule} {rules : GroupRules}

/-- Rules that stand in ascending order of their groups, each of which has one. -/
def Ascending (rules : GroupRules) : Prop := rules.Pairwise fun a b => a.1 < b.1

theorem number_insert {entry : Nat × GroupRule} (h : entry ∈ insert number rule rules) :
    entry.1 = number ∨ entry ∈ rules := by
  rcases mem_insert h with rfl | hold
  · exact Or.inl rfl
  · exact Or.inr hold

theorem Ascending.insert (h : rules.Ascending) (number : Nat) (rule : GroupRule) :
    (insert number rule rules).Ascending := by
  induction rules with
  | nil => exact List.pairwise_singleton _ _
  | cons head rest ih =>
      obtain ⟨n, r⟩ := head
      obtain ⟨hhead, hrest⟩ := List.pairwise_cons.1 h
      rw [GroupRules.insert]
      split
      · rename_i hlt
        refine List.pairwise_cons.2 ⟨fun entry hentry => ?_, h⟩
        rcases List.mem_cons.1 hentry with rfl | hentry
        · exact hlt
        · exact Nat.lt_trans hlt (hhead entry hentry)
      · split
        · rename_i heq
          exact List.pairwise_cons.2 ⟨heq ▸ hhead, hrest⟩
        · rename_i hge hne
          refine List.pairwise_cons.2 ⟨fun entry hentry => ?_, ih hrest⟩
          rcases number_insert hentry with hnumber | hentry
          · rw [hnumber]
            exact Nat.lt_of_le_of_ne (Nat.not_lt.1 hge) hne
          · exact hhead entry hentry

/-- An inserted rule replaces an earlier one of the same group, and no other. -/
theorem mem_insert_iff (h : rules.Ascending) : (n, r) ∈ insert number rule rules ↔
    n = number ∧ r = rule ∨ n ≠ number ∧ (n, r) ∈ rules := by
  induction rules with
  | nil =>
      simp only [GroupRules.insert, List.mem_singleton, Prod.mk.injEq, List.not_mem_nil, and_false,
        or_false]
  | cons head rest ih =>
      obtain ⟨m, s⟩ := head
      obtain ⟨hhead, hrest⟩ := List.pairwise_cons.1 h
      have hlater : ∀ {k}, k ≤ m → (n, r) ∈ rest → n ≠ k := fun hle hmem =>
        Nat.ne_of_gt (Nat.lt_of_le_of_lt hle (hhead _ hmem))
      rw [GroupRules.insert]
      split
      · rename_i hlt
        simp only [List.mem_cons, Prod.mk.injEq]
        grind
      · split
        · rename_i heq
          simp only [List.mem_cons, Prod.mk.injEq]
          grind
        · rename_i hge hne
          simp only [List.mem_cons, Prod.mk.injEq, ih hrest]
          grind

end GroupRules

/-- The capture for a group: of those with its number the last one counts. -/
def captureOf? (captures : List (Nat × List Step × Entry)) (number : Nat) :
    Option (List Step × Entry) :=
  ((captures.filter (·.1 = number)).getLast?).map Prod.snd

theorem captureOf?_append (captures : List (Nat × List Step × Entry))
    (last : Nat × List Step × Entry) (number : Nat) :
    captureOf? (captures ++ [last]) number =
      if last.1 = number then some last.2 else captureOf? captures number := by
  unfold captureOf?
  rw [List.filter_append]
  split
  · rename_i hsame
    simp [hsame]
  · rename_i hother
    simp [hother]

/-- The rule of a group is as the capture says that is written at a place, where it is one of the
captures of this kind. -/
structure GroupRule.Of (parts : List Part) (which : CaptureMap) (place : Place) (capture : Entry)
    (rule : GroupRule) : Prop where
  name : rule.name = capture.name.map Template.mk
  contentName : rule.contentName = capture.contentName.map Template.mk
  /-- If the capture has patterns, there is a slot for them in this use. -/
  inner : rule.inner.map (keyAt parts) = capture.patterns.map fun _ => some (.contents which place)

/-- The rules for groups are as the captures of this kind say. -/
structure GroupRules.Of (parts : List Part) (which : CaptureMap) (scope : String)
    (captures : List (Nat × List Step × Entry)) (rules : GroupRules) : Prop where
  ascending : rules.Ascending
  mem : ∀ number rule, (number, rule) ∈ rules → ∃ steps capture,
    captureOf? captures number = some (steps, capture) ∧ rule.Of parts which ⟨scope, steps⟩ capture
  has : ∀ number, captureOf? captures number ≠ none → ∃ rule, (number, rule) ∈ rules

/-- What has a number is known by its key in the slot. -/
theorem keyAt_of_numbering {parts : List Part} {key : Key} {id : RuleIndex}
    (h : numbering parts key = some id) : keyAt parts id = some key := by
  obtain ⟨p, hp, rfl⟩ := key_of_numbering h
  rw [keyAt, hp, Option.map_some]

/-- The rules for groups that a part has are as its captures say, if the patterns inside of these
have numbers. -/
theorem Part.groupRules_of {parts : List Part} {path : List Step} {e : Entry}
    {around : Surroundings} {which : CaptureMap}
    (h : ∀ q ∈ captureContents path e (Part.entry path e around).inner which,
      q.key ∈ parts.map Part.key) :
    GroupRules.Of parts which around.scope (numberedCaptures path e which)
      (Part.groupRules (numbering parts) path e around which) := by
  have hnumbered : ∀ c ∈ numberedCaptures path e which, c.2.2.patterns ≠ none →
      ∃ id, numbering parts (.contents which ⟨around.scope, c.2.1⟩) = some id := by
    rintro ⟨number, steps, capture⟩ hmem hpatterns
    obtain ⟨patterns, hsome⟩ := Option.ne_none_iff_exists'.1 hpatterns
    have hsome : capture.patterns = some patterns := hsome
    have hkey := h (.contents which steps capture (Part.entry path e around).inner)
      (List.mem_filterMap.2 ⟨_, hmem, by simp only [hsome, Option.map_some]⟩)
    rw [Part.key, inner_scope] at hkey
    exact exists_numbering hkey
  unfold Part.groupRules
  generalize numberedCaptures path e which = captures at hnumbered ⊢
  clear h
  -- The last capture of the list is inserted last.
  induction captures using List.reverseRecOn with
  | nil => exact ⟨List.Pairwise.nil, by simp, by simp [captureOf?]⟩
  | append_singleton captures last ih =>
      obtain ⟨n, steps, capture⟩ := last
      have hcaptures := ih fun c hc => hnumbered c (List.mem_append_left _ hc)
      rw [List.foldl_append]
      generalize captures.foldl _ [] = rules at hcaptures ⊢
      have hrule : GroupRule.Of parts which ⟨around.scope, steps⟩ capture
          ⟨capture.name.map Template.mk, capture.contentName.map Template.mk,
            capture.patterns.bind fun _ =>
              numbering parts (.contents which ⟨around.scope, steps⟩)⟩ := by
        refine ⟨rfl, rfl, ?_⟩
        cases hpatterns : capture.patterns with
        | none => rfl
        | some patterns =>
            obtain ⟨id, hid⟩ := hnumbered (n, steps, capture)
              (List.mem_append_right _ List.mem_cons_self) (by simp [hpatterns])
            have hid : numbering parts (.contents which ⟨around.scope, steps⟩) = some id := hid
            simp only [Option.bind_some, hid, Option.map_some, keyAt_of_numbering hid]
      refine ⟨hcaptures.ascending.insert n _, fun number rule hmem => ?_, fun number hsome => ?_⟩
      · rw [captureOf?_append]
        rcases (GroupRules.mem_insert_iff hcaptures.ascending).1 hmem with ⟨rfl, rfl⟩ | ⟨hne, hmem⟩
        · exact ⟨steps, capture, if_pos rfl, hrule⟩
        · rw [if_neg (Ne.symm hne)]
          exact hcaptures.mem number rule hmem
      · rw [captureOf?_append] at hsome
        by_cases hsame : number = n
        · exact ⟨_, (GroupRules.mem_insert_iff hcaptures.ascending).2 (Or.inl ⟨hsame, rfl⟩)⟩
        · rw [if_neg (Ne.symm hsame)] at hsome
          obtain ⟨rule, hrule⟩ := hcaptures.has number hsome
          exact ⟨rule, (GroupRules.mem_insert_iff hcaptures.ascending).2 (Or.inr ⟨hsame, hrule⟩)⟩

/-! ## Rules -/

/-- The rules with these numbers are those of these parts, in this order. -/
def StandFor (parts : List Part) (ids : List RuleIndex) (ps : List Part) : Prop :=
  ids.map (keyAt parts) = ps.map fun q => some q.key

theorem standFor_filterMap {parts ps : List Part} (h : ∀ q ∈ ps, q.key ∈ parts.map Part.key) :
    StandFor parts (ps.filterMap fun q => numbering parts q.key) ps := by
  have hnumbered : ∀ q ∈ ps, ∃ id, numbering parts q.key = some id :=
    fun q hq => exists_numbering (h q hq)
  rw [StandFor, Grammar.CompiledFrom.filterMap_numbering hnumbered, List.map_map]
  refine List.map_congr_left fun q hq => ?_
  obtain ⟨id, hid⟩ := hnumbered q hq
  rw [Function.comp_apply, numberOf, hid, Option.getD_some, keyAt_of_numbering hid]

/-- What a part says about the rule in its slot.  A grammar and the patterns of a capture stand for
their patterns only.  The form of an entry follows from its fields. -/
structure Part.Dictates (engine : RegexEngine ρ) (lib : Library) (parts : List Part) (p : Part)
    (r : Rule ρ) : Prop where
  name : r.name = match p with
    | .entry _ e _ => e.name.map Template.mk
    | .root .. | .contents .. => none
  contentName : r.contentName = match p with
    | .entry _ e _ => e.contentName.map Template.mk
    | .root .. | .contents .. => none
  patterns : StandFor parts r.patterns (p.patterns lib)
  form : match p with
    | .root .. | .contents .. => ∃ patterns, r.form = .container patterns
    | .entry path e around =>
      let captures (which : CaptureMap) : GroupRules → Prop :=
        GroupRules.Of parts which around.scope (Part.numberedCaptures path e which)
      match e.shape with
      | .single source => ∃ own groups, r.form = .single own groups ∧
          Pattern.read engine source = .ok own ∧ captures .whole groups
      | .region first last => ∃ begins firstGroups ends lastGroups patterns,
          r.form = .region begins firstGroups ends lastGroups e.triesEndLast patterns ∧
          Pattern.read engine first = .ok begins ∧ captures .first firstGroups ∧
          Pattern.read engine last = .ok ends ∧ captures .last lastGroups
      | .during first condition => ∃ begins firstGroups holds conditionGroups patterns,
          r.form = .during begins firstGroups holds conditionGroups patterns ∧
          Pattern.read engine first = .ok begins ∧ captures .first firstGroups ∧
          Pattern.read engine condition = .ok holds ∧ captures .condition conditionGroups
      | .container => ∃ patterns, r.form = .container patterns

/-- The rule of an entry has the names of the entry. -/
theorem Part.rule_names {numbers : Numbering} {path : List Step} {e : Entry}
    {around : Surroundings} {r : Rule ρ}
    (h : (Part.entry path e around).rule engine lib numbers = .ok r) :
    r.name = e.name.map Template.mk ∧ r.contentName = e.contentName.map Template.mk := by
  rw [Part.rule] at h
  dsimp only at h
  cases hshape : e.shape with
  | container =>
      rw [hshape] at h
      cases h
      exact ⟨rfl, rfl⟩
  | single source =>
      rw [hshape] at h
      obtain ⟨_, -, h⟩ := exists_of_bind_eq_ok h
      cases h
      exact ⟨rfl, rfl⟩
  | region first last =>
      rw [hshape] at h
      obtain ⟨_, -, h⟩ := exists_of_bind_eq_ok h
      obtain ⟨_, -, h⟩ := exists_of_bind_eq_ok h
      cases h
      exact ⟨rfl, rfl⟩
  | during first condition =>
      rw [hshape] at h
      obtain ⟨_, -, h⟩ := exists_of_bind_eq_ok h
      obtain ⟨_, -, h⟩ := exists_of_bind_eq_ok h
      cases h
      exact ⟨rfl, rfl⟩

/-- The rule of a part is the one that it says, if all that follows from the part has a number. -/
theorem Part.dictates_of_rule {parts : List Part} {p : Part} {r : Rule ρ}
    (h : p.rule engine lib (numbering parts) = .ok r)
    (hmet : ∀ q, .visit q ∈ p.tasks lib → q.key ∈ parts.map Part.key) :
    p.Dictates engine lib parts r := by
  have hpatterns : StandFor parts r.patterns (p.patterns lib) := by
    rw [Part.patterns_of_rule h]
    exact standFor_filterMap fun q hq => hmet q (Part.visit_mem_tasks hq)
  cases p with
  | root scope d =>
      obtain rfl := Except.ok.inj h
      exact ⟨rfl, rfl, hpatterns, _, rfl⟩
  | contents which path e around =>
      obtain rfl := Except.ok.inj h
      exact ⟨rfl, rfl, hpatterns, _, rfl⟩
  | entry path e around =>
      have hcaptures : ∀ which ∈ e.shape.captureMaps,
          GroupRules.Of parts which around.scope (Part.numberedCaptures path e which)
            (Part.groupRules (numbering parts) path e around which) :=
        fun which hwhich => Part.groupRules_of fun q hq =>
          hmet q (Part.visit_mem_tasks_of_captures hwhich hq)
      obtain ⟨hname, hcontentName⟩ := Part.rule_names h
      refine ⟨hname, hcontentName, hpatterns, ?_⟩
      have hform := Part.rule_form h
      dsimp only at hform ⊢
      cases hshape : e.shape with
      | container =>
          simp only [hshape] at hform
          exact ⟨_, hform⟩
      | single source =>
          simp only [hshape] at hform hcaptures
          obtain ⟨own, hown, hform⟩ := hform
          exact ⟨own, _, hform, hown, hcaptures .whole List.mem_cons_self⟩
      | region first last =>
          simp only [hshape] at hform hcaptures
          obtain ⟨begins, ends, hbegins, hends, hform⟩ := hform
          exact ⟨begins, _, ends, _, _, hform, hbegins, hcaptures .first List.mem_cons_self, hends,
            hcaptures .last (List.mem_cons_of_mem _ List.mem_cons_self)⟩
      | during first condition =>
          simp only [hshape] at hform hcaptures
          obtain ⟨begins, holds, hbegins, hholds, hform⟩ := hform
          have hfirst := hcaptures .first List.mem_cons_self
          have hcondition := hcaptures .condition (List.mem_cons_of_mem _ List.mem_cons_self)
          exact ⟨begins, _, holds, _, _, hform, hbegins, hfirst, hholds, hcondition⟩

/-! ## Slots -/

/-- An entry as it takes part in compiling: it is not switched off, and in a list of patterns it is
no include. -/
def Entry.TakesPart (path : List Step) (e : Entry) : Prop :=
  e.isOff = false ∧ ∀ i outer, path = .pattern i :: outer → e.reference = none

theorem Part.takesPart_of_enabled {path path' : List Step} {e e' : Entry}
    {around around' : Surroundings}
    (h : Library.enabled path e around = some (.entry path' e' around'))
    (hreference : ∀ i outer, path = .pattern i :: outer → e.reference = none) :
    e'.TakesPart path' := by
  unfold Library.enabled at h
  split at h
  · cases h
  · rename_i hon
    obtain ⟨rfl, rfl, -⟩ := Part.entry.inj (Option.some.inj h)
    exact ⟨Bool.eq_false_iff.2 hon, hreference⟩

/-- An entry that follows from a part stands for one of its patterns. -/
theorem Part.entry_mem_patterns {p : Part} {path : List Step} {e : Entry} {around : Surroundings}
    (h : .visit (.entry path e around) ∈ p.tasks lib) : .entry path e around ∈ p.patterns lib := by
  have hvisit : ∀ {ps : List Part}, Task.visit (.entry path e around) ∈ ps.map Task.visit →
      .entry path e around ∈ ps := by
    intro ps hmem
    obtain ⟨q, hq, hsame⟩ := List.mem_map.1 hmem
    exact Task.visit.inj hsame ▸ hq
  have hcaptures : ∀ {outer written inner which},
      Task.visit (.entry path e around) ∉
        (captureContents outer written inner which).map Task.visit := by
    intro outer written inner which hmem
    obtain ⟨_, _, hpatterns⟩ := List.mem_filterMap.1 (hvisit hmem)
    obtain ⟨_, _, hsame⟩ := Option.map_eq_some_iff.1 hpatterns
    cases hsame
  cases p with
  | root scope d => exact hvisit h
  | contents which outer written inner => exact hvisit h
  | entry outer written inner =>
      rw [tasks] at h
      cases hshape : written.shape with
      | container =>
          rw [hshape] at h
          exact hvisit h
      | single source =>
          rw [hshape] at h
          rcases List.mem_cons.1 h with hcheck | h
          · cases hcheck
          · exact absurd h hcaptures
      | region first last =>
          simp only [hshape, List.mem_append, List.mem_cons, reduceCtorEq, hcaptures, or_false] at h
          exact hvisit h
      | during first condition =>
          simp only [hshape, List.mem_append, List.mem_cons, reduceCtorEq, hcaptures, or_false] at h
          exact hvisit h

/-- An entry that stands for a pattern takes part. -/
theorem Part.takesPart_of_mem_patterns {p : Part} {path : List Step} {e : Entry}
    {around : Surroundings} (h : .entry path e around ∈ p.patterns lib) : e.TakesPart path := by
  have hroot : ∀ {scope}, lib.root scope ≠ some (.entry path e around) := by
    intro scope hsome
    obtain ⟨_, _, hsame⟩ := Option.map_eq_some_iff.1 hsome
    cases hsame
  obtain ⟨i, written, _, hstands⟩ := Part.mem_patterns.1 h
  unfold Library.standsFor at hstands
  split at hstands
  · rename_i text hreference
    cases htarget : Target.ofText text with
    | self => exact absurd (htarget ▸ hstands) hroot
    | base => exact absurd (htarget ▸ hstands) hroot
    | grammar scope => exact absurd (htarget ▸ hstands) hroot
    | named name =>
        rw [htarget] at hstands
        obtain ⟨⟨owner, found⟩, hfound, henabled⟩ := Option.bind_eq_some_iff.1 hstands
        refine Part.takesPart_of_enabled henabled fun i outer hpattern => ?_
        obtain ⟨r, _, hsteps, _⟩ := mem_of_findNamed hfound
        cases hsteps.symm.trans hpattern
    | entryOf scope name =>
        rw [htarget] at hstands
        obtain ⟨d, _, hentry⟩ := Option.bind_eq_some_iff.1 hstands
        obtain ⟨found, _, henabled⟩ := Option.bind_eq_some_iff.1 hentry
        refine Part.takesPart_of_enabled henabled fun i outer hpattern => ?_
        cases hpattern
  · rename_i hreference
    exact Part.takesPart_of_enabled hstands fun _ _ _ => hreference

/-- The table of a compiled grammar: the part with a number has the slot with this number. -/
structure Grammar.Table (engine : RegexEngine ρ) (lib : Library) (g : Grammar ρ)
    (parts : List Part) : Prop where
  /-- Slots are told apart by what is written at the places of their keys, -/
  written : ∀ p ∈ parts, p.IsWritten lib
  once : (parts.map Part.key).Nodup
  size : g.rules.size = parts.length
  root : keyAt parts g.root = some (.root lib.base)
  /-- All that follows from a part has one slot, -/
  met : ∀ p ∈ parts, ∀ q, .visit q ∈ p.tasks lib → ∃! id, keyAt parts id = some q.key
  /-- and nothing else has any. -/
  reached : ∀ p ∈ parts, lib.Reaches p
  takesPart : ∀ scope d path e, Dictionary.find? scope lib.documents = some d →
    d.entryAt? path = some e → (∃ id, keyAt parts id = some (.entry ⟨scope, path⟩)) →
      e.TakesPart path
  dictated : ∀ (id : RuleIndex) (p : Part), parts[id]? = some p →
    p.Dictates engine lib parts (g.rule id)

namespace Grammar.CompiledFrom

variable {g : Grammar ρ} {parts : List Part}

theorem takesPart (h : g.CompiledFrom engine lib parts) :
    ∀ path e around, .entry path e around ∈ parts → e.TakesPart path := by
  have hall : ∀ p ∈ parts, ∀ path e around, p = .entry path e around → e.TakesPart path := by
    refine h.induction (fun d _ path e around hroot => by cases hroot) ?_
    rintro p _ _ hq path e around rfl
    exact Part.takesPart_of_mem_patterns (Part.entry_mem_patterns hq)
  exact fun path e around hmem => hall _ hmem path e around rfl

/-- The table of a compiled grammar, if its keys are different and all that is followed has been
met. -/
theorem table (hkeyed : lib.CapturesKeyed) (h : g.CompiledFrom engine lib parts)
    (hnodup : (parts.map Part.key).Nodup)
    (hmet : ∀ p ∈ parts, ∀ q, .visit q ∈ p.tasks lib → q.key ∈ parts.map Part.key) :
    g.Table engine lib parts where
  written := h.isWritten hkeyed
  once := hnodup
  size := h.size_eq
  root := by
    obtain ⟨d, _, hroot⟩ := h.root_eq
    rw [keyAt, hroot]
    rfl
  met := by
    intro p hp q hq
    obtain ⟨id, hid⟩ := exists_numbering (hmet p hp q hq)
    refine ⟨id, keyAt_of_numbering hid, fun other hother => ?_⟩
    have hsame : (parts.map Part.key)[id]? = (parts.map Part.key)[other]? := by
      rw [List.getElem?_map, List.getElem?_map]
      exact (keyAt_of_numbering hid).trans hother.symm
    have hlt : id < (parts.map Part.key).length := by
      obtain ⟨own, hown, _⟩ := key_of_numbering hid
      rw [List.length_map]
      exact (List.getElem?_eq_some_iff.1 hown).1
    exact ((List.getElem?_inj hlt hnodup).1 hsame).symm
  reached := h.reaches
  takesPart := by
    rintro scope d path e hd he ⟨id, hid⟩
    obtain ⟨p, hp, hkey⟩ := Option.map_eq_some_iff.1 hid
    have hmem := List.mem_of_getElem? hp
    cases p with
    | root => cases hkey
    | contents => cases hkey
    | entry path' e' around =>
        obtain ⟨hscope, rfl⟩ := Place.mk.inj (Key.entry.inj hkey)
        have he' := (h.isWritten hkeyed _ hmem).entryAt? (hscope ▸ hd)
        obtain rfl := Option.some.inj (he.symm.trans he')
        exact h.takesPart _ _ _ hmem
  dictated := by
    intro id p hp
    exact Part.dictates_of_rule (h.rule hp) (hmet p (List.mem_of_getElem? hp))

end Grammar.CompiledFrom

/-- Compiling ends, for whatever the grammars of a library include.  The table can be filled in
exactly one way, with a refusal or with all slots filled.  The grammar that results has this table:
each grammar, entry and use of the patterns of a capture that is met has exactly one slot, with the
rule that it dictates, and nothing else has a slot. -/
theorem Library.Keyed.compile_fills_slots (engine : RegexEngine ρ) (hlib : lib.Keyed) :
    match lib.root lib.base with
    | none => Grammar.compile engine lib = .ok none
    | some base => ∃ result, (∀ other, Drafts engine lib [] [.visit base] other ↔ other = result) ∧
      match result with
      | .error e => Grammar.compile engine lib = .error e
      | .ok final => ∃ g, Grammar.compile engine lib = .ok (some g) ∧
          final.map Prod.snd = g.rules.toList.map some ∧ g.Table engine lib final.parts := by
  cases hbase : lib.root lib.base with
  | none => simp only [Grammar.compile, hbase]
  | some base =>
      have hends : ∃ result, Drafts engine lib [] [.visit base] result :=
        Drafts.exists_result hlib [] _ (Drafts.pending_base hbase)
      obtain ⟨result, hresult⟩ := hends
      refine ⟨result, fun other => ⟨fun h => h.unique hresult, fun h => h ▸ hresult⟩, ?_⟩
      cases result with
      | error e => exact hresult.compile_eq_error hlib hbase
      | ok final =>
          obtain ⟨g, hcompile, hcompiled, hslots⟩ := hresult.compile_eq hlib hbase
          obtain ⟨_, rfl, hadds⟩ := hresult.adds _ rfl
          have hnodup : final.keys.Nodup :=
            (hresult.pending hlib.capturesKeyed (Drafts.pending_base hbase) _ rfl).nodup
          have hfinished : ∀ slot ∈ final, Finished engine lib final.parts slot := hadds.finished
          refine ⟨g, hcompile, hslots, hcompiled.table hlib.capturesKeyed hnodup ?_⟩
          intro p hp
          obtain ⟨slot, hslot, rfl⟩ := List.mem_map.1 hp
          exact (hfinished slot hslot).met

namespace Sample

/-- Without maps, an entry has a key once in each map if the entries in its patterns have. -/
theorem keyed_of_patterns {e : Entry} (hrepository : e.repository = none)
    (hcaptures : ∀ which, e.captureMap which = [])
    (hpatterns : ∀ child ∈ e.patterns.getD [], child.Keyed) : e.Keyed := by
  refine Entry.keyed_iff.2 ⟨hpatterns, ?_, fun which => ?_⟩
  · rw [hrepository]
    exact keyedMap_nil
  · rw [hcaptures]
    exact keyedMap_nil

theorem hostLibrary_keyed : hostLibrary.Keyed where
  scopes := by decide
  documents := by
    have hleaf : ∀ {e : Entry}, e.repository = none → (∀ which, e.captureMap which = []) →
        e.patterns.getD [] = [] → e.Keyed := by
      intro e hrepository hcaptures hnone
      exact keyed_of_patterns hrepository hcaptures (by simp [hnone])
    have hincluding : ∀ text, (including text).Keyed := fun text =>
      hleaf rfl (fun which => by cases which <;> rfl) rfl
    intro p hp
    rcases List.mem_cons.1 hp with rfl | hp
    · refine ⟨?_, by decide, ?_⟩
      · simp [host, hincluding]
      · simp only [host, List.mem_singleton, forall_eq]
        refine keyed_of_patterns rfl (fun which => by cases which <;> rfl) ?_
        simp only [Option.getD_some, List.mem_cons, List.not_mem_nil, or_false, forall_eq_or_imp,
          forall_eq]
        refine ⟨?_, hincluding _, hleaf rfl (fun which => by cases which <;> rfl) rfl⟩
        refine keyed_of_patterns rfl (fun which => by cases which <;> rfl) ?_
        simp [hincluding]
    · obtain rfl := List.mem_singleton.1 hp
      have hword : ∀ disabled, Entry.Keyed
          { Entry.blank with matchSource := some "w", disabled := disabled } := fun disabled =>
        hleaf rfl (fun which => by cases which <;> rfl) rfl
      refine ⟨?_, by decide, ?_⟩
      · simp only [guest, List.mem_cons, List.not_mem_nil, or_false, forall_eq_or_imp, forall_eq]
        exact ⟨hincluding _, hword _, hincluding _⟩
      · simp only [guest, List.mem_singleton, forall_eq]
        exact hword none

end Sample

/-- Two grammars that include each other are compiled to the table of `Sample.hostGrammar`. -/
theorem Library.Keyed.sample_compile_fills_slots : Sample.hostLibrary.Keyed ∧
    ∃ final,
      (∀ other, Drafts .literal Sample.hostLibrary [] [.visit (.root "h" Sample.host)] other ↔
        other = .ok final) ∧
      final.map Prod.snd = Sample.hostGrammar.rules.toList.map some ∧
      Sample.hostGrammar.Table .literal Sample.hostLibrary final.parts := by
  refine ⟨Sample.hostLibrary_keyed, ?_⟩
  obtain ⟨result, honly, hresult⟩ :=
    Library.Keyed.compile_fills_slots .literal Sample.hostLibrary_keyed
  cases result with
  | error e => cases hresult.symm.trans Sample.hostGrammar_compile
  | ok final =>
      obtain ⟨g, hcompile, hslots, htable⟩ := hresult
      cases hcompile.symm.trans Sample.hostGrammar_compile
      exact ⟨final, honly, hslots, htable⟩

end ScopeCheck
