import Mathlib.Data.List.Nodup
import ScopeCheck.Proofs.Grammar.Keyed

/-!
# Patterns of captures are met once

A grammar or an entry may be included from several places, so a table of rules has to be asked
whether it has a slot already.  The patterns of a capture can only be reached through the entry that
the capture belongs to.  This entry is visited once, and then each use of its captures leads to
their patterns once.  So the patterns of captures are new whenever they are visited, and a table
need not be asked for them.

* `Key.owner?`: the entry that the patterns of a capture belong to;
* `Part.nodup_ownedKeys_tasks`: a part leads to each list of patterns of its captures once;
* `Pending`: which tasks can be left to do when some parts have been met;
* `Pending.visit`: this is preserved by a visit.
-/

namespace ScopeCheck

variable {lib : Library}

/-- The entry that the patterns of a capture belong to.  Grammars and entries belong to none. -/
def Key.owner? : Key → Option Key
  | .contents _ place => some (.entry ⟨place.scope, place.path.tail⟩)
  | .root _ | .entry _ => none

/-- The maps of captures that are in use in an entry of this shape. -/
def Shape.captureMaps : Shape → List CaptureMap
  | single _ => [.whole]
  | region _ _ => [.first, .last]
  | during _ _ => [.first, .condition]
  | container => []

theorem Shape.captureMaps_nodup (shape : Shape) : shape.captureMaps.Nodup := by
  cases shape <;> simp [captureMaps]

namespace Part

/-- Grammars and entries have one slot for all that refers to them. -/
def IsShared : Part → Prop
  | root .. | entry .. => True
  | contents .. => False

/-- The key of the patterns of a capture that are to be visited. -/
def Task.ownedKey? : Task → Option Key
  | visit p => p.key.owner?.map fun _ => p.key
  | check _ => none

/-- The keys of the patterns of captures among the parts that are to be visited. -/
def ownedKeys (tasks : List Task) : List Key := tasks.filterMap Task.ownedKey?

variable {p q : Part} {tasks : List Task}

theorem isShared_iff : p.IsShared ↔ p.key.owner? = none := by
  cases p <;> simp [IsShared, key, Key.owner?]

@[simp] theorem ownedKeys_check (source : String) :
    ownedKeys (.check source :: tasks) = ownedKeys tasks := rfl

@[simp] theorem ownedKeys_append (tasks later : List Task) :
    ownedKeys (tasks ++ later) = ownedKeys tasks ++ ownedKeys later := List.filterMap_append

theorem ownedKeys_visit_of_owner {owner : Key} (h : p.key.owner? = some owner) :
    ownedKeys (.visit p :: tasks) = p.key :: ownedKeys tasks := by
  have hsome : (Task.visit p).ownedKey? = some p.key := by rw [Task.ownedKey?, h]; rfl
  exact List.filterMap_cons_some hsome

theorem mem_ownedKeys {k : Key} : k ∈ ownedKeys tasks ↔
    ∃ p owner, .visit p ∈ tasks ∧ p.key = k ∧ k.owner? = some owner := by
  rw [ownedKeys, List.mem_filterMap]
  constructor
  · rintro ⟨task, htask, hkey⟩
    cases task with
    | check source => cases hkey
    | visit p =>
        obtain ⟨owner, howner, rfl⟩ := Option.map_eq_some_iff.1 hkey
        exact ⟨p, owner, htask, rfl, howner⟩
  · rintro ⟨p, owner, htask, rfl, howner⟩
    exact ⟨.visit p, htask, by rw [Task.ownedKey?, howner, Option.map_some]⟩

/-- What stands in a list of patterns is a grammar or an entry. -/
theorem isShared_of_mem_patterns (h : q ∈ p.patterns lib) : q.IsShared := by
  have hroot : ∀ {scope}, lib.root scope = some q → q.IsShared := by
    intro scope hsome
    obtain ⟨d, -, rfl⟩ := Option.map_eq_some_iff.1 hsome
    trivial
  have henabled : ∀ {path e around}, Library.enabled path e around = some q → q.IsShared := by
    intro path e around hsome
    obtain rfl := eq_of_enabled hsome
    trivial
  obtain ⟨i, e, -, hstands⟩ := mem_patterns.1 h
  unfold Library.standsFor at hstands
  split at hstands
  · rename_i text hreference
    cases htarget : Target.ofText text with
    | self => exact hroot (htarget ▸ hstands)
    | base => exact hroot (htarget ▸ hstands)
    | grammar scope => exact hroot (htarget ▸ hstands)
    | named name =>
        rw [htarget] at hstands
        obtain ⟨found, -, hfound⟩ := Option.bind_eq_some_iff.1 hstands
        exact henabled hfound
    | entryOf scope name =>
        rw [htarget] at hstands
        obtain ⟨d, -, hentry⟩ := Option.bind_eq_some_iff.1 hstands
        obtain ⟨found, -, hfound⟩ := Option.bind_eq_some_iff.1 hentry
        exact henabled hfound
  · exact henabled hstands

theorem ownedKeys_patterns (lib : Library) (p : Part) :
    ownedKeys ((p.patterns lib).map .visit) = [] := by
  refine List.eq_nil_iff_forall_not_mem.2 fun k hk => ?_
  obtain ⟨q, owner, hq, rfl, howner⟩ := mem_ownedKeys.1 hk
  obtain ⟨own, hown, hsame⟩ := List.mem_map.1 hq
  obtain rfl := Task.visit.inj hsame
  cases (isShared_iff.1 (isShared_of_mem_patterns hown)).symm.trans howner

/-- Patterns of captures belong to the part that leads to them. -/
theorem owner_of_mem_ownedKeys_tasks {k : Key} (h : k ∈ ownedKeys (p.tasks lib)) :
    k.owner? = some p.key := by
  obtain ⟨q, owner, hq, rfl, howner⟩ := mem_ownedKeys.1 h
  cases leads_of_mem_tasks hq with
  | capture => simp only [key, Key.owner?, inner_scope, Key.place, List.tail_cons]
  | _ => cases howner

theorem ownedKeys_captureContents (path : List Step) (e : Entry) (around : Surroundings)
    (which : CaptureMap) :
    ownedKeys ((captureContents path e around which).map .visit) =
      (captureContents path e around which).map key := by
  rw [ownedKeys, List.filterMap_map, ← List.filterMap_eq_map]
  refine List.filterMap_congr fun q hq => ?_
  obtain ⟨⟨number, steps, capture⟩, -, hpatterns⟩ := List.mem_filterMap.1 hq
  obtain ⟨patterns, -, rfl⟩ := Option.map_eq_some_iff.1 hpatterns
  rfl

/-- The captures of one kind in an entry have different keys, so they have different places. -/
theorem keys_captureContents_nodup {path : List Step} {e : Entry} {around : Surroundings}
    {which : CaptureMap} (hkeys : ((e.capturesFor which).2.map Prod.fst).Nodup) :
    ((captureContents path e around which).map key).Nodup := by
  have hplaces : (numberedCaptures path e which).Pairwise fun c c' => c.2.1 ≠ c'.2.1 := by
    refine List.Pairwise.filterMap _ ?_ (List.pairwise_map.1 hkeys)
    intro c c' hne b hb b' hb' hsame
    obtain ⟨_, -, rfl⟩ := Option.map_eq_some_iff.1 hb
    obtain ⟨_, -, rfl⟩ := Option.map_eq_some_iff.1 hb'
    exact hne (Step.capture.inj (List.cons.inj hsame).1).2
  refine List.pairwise_map.2 (List.Pairwise.filterMap _ ?_ hplaces)
  intro c c' hne b hb b' hb' hsame
  obtain ⟨_, -, rfl⟩ := Option.map_eq_some_iff.1 hb
  obtain ⟨_, -, rfl⟩ := Option.map_eq_some_iff.1 hb'
  exact hne (Place.mk.inj (Key.contents.inj hsame).2).2

/-- An entry leads to the patterns of its captures, use by use. -/
theorem ownedKeys_tasks_entry (path : List Step) (e : Entry) (around : Surroundings) :
    ownedKeys ((entry path e around).tasks lib) = e.shape.captureMaps.flatMap fun which =>
      (captureContents path e (entry path e around).inner which).map key := by
  have hpatterns := ownedKeys_patterns lib (entry path e around)
  have hcaptures := ownedKeys_captureContents path e (entry path e around).inner
  rw [tasks]
  cases e.shape with
  | single source => simp [hcaptures, Shape.captureMaps]
  | region first last => simp [hpatterns, hcaptures, Shape.captureMaps]
  | during first condition => simp [hpatterns, hcaptures, Shape.captureMaps]
  | container => simp [hpatterns, Shape.captureMaps]

/-- A part leads to each list of patterns of its captures once. -/
theorem nodup_ownedKeys_tasks (hkeyed : lib.CapturesKeyed) (hp : p.IsWritten lib) :
    (ownedKeys (p.tasks lib)).Nodup := by
  cases p with
  | root scope d =>
      rw [tasks, ownedKeys_patterns]
      exact List.nodup_nil
  | contents which path e around =>
      rw [tasks, ownedKeys_patterns]
      exact List.nodup_nil
  | entry path e around =>
      obtain ⟨d, haround, he⟩ := hp
      rw [ownedKeys_tasks_entry]
      refine List.pairwise_flatMap.2 ⟨fun which _ => keys_captureContents_nodup ?_, ?_⟩
      · rw [Entry.capturesFor_eq]
        exact hkeyed _ d haround.document path e he _
      · -- The same captures in another use have other keys.
        refine e.shape.captureMaps_nodup.imp fun hne k hk k' hk' hsame => hne ?_
        obtain ⟨q, hq, rfl⟩ := List.mem_map.1 hk
        obtain ⟨q', hq', rfl⟩ := List.mem_map.1 hk'
        obtain ⟨_, -, hpatterns⟩ := List.mem_filterMap.1 hq
        obtain ⟨_, -, hpatterns'⟩ := List.mem_filterMap.1 hq'
        obtain ⟨_, -, rfl⟩ := Option.map_eq_some_iff.1 hpatterns
        obtain ⟨_, -, rfl⟩ := Option.map_eq_some_iff.1 hpatterns'
        exact (Key.contents.inj hsame).1

end Part

/-- What can be left to do when the parts with these keys have been met.  Patterns of captures are
only met after the entry that they belong to, and those that are left have not been met. -/
structure Pending (lib : Library) (met : List Key) (tasks : List Part.Task) : Prop where
  written : ∀ p, .visit p ∈ tasks → p.IsWritten lib
  nodup : met.Nodup
  owners : ∀ k ∈ met, ∀ owner, k.owner? = some owner → owner ∈ met
  owned : ∀ k ∈ Part.ownedKeys tasks, k ∉ met ∧ ∀ owner, k.owner? = some owner → owner ∈ met
  once : (Part.ownedKeys tasks).Nodup

namespace Pending

variable {met : List Key} {tasks later : List Part.Task} {p : Part}

theorem sublist (h : Pending lib met tasks) (hsub : later.Sublist tasks) :
    Pending lib met later where
  written := fun p hp => h.written p (hsub.subset hp)
  nodup := h.nodup
  owners := h.owners
  owned := fun k hk => h.owned k ((hsub.filterMap _).subset hk)
  once := h.once.sublist (hsub.filterMap _)

/-- What has to be asked for is new if it has not been met; patterns of captures always are. -/
theorem new (h : Pending lib met (.visit p :: tasks)) (hshared : p.IsShared → p.key ∉ met) :
    p.key ∉ met := by
  cases howner : p.key.owner? with
  | none => exact hshared (Part.isShared_iff.2 howner)
  | some owner =>
      refine (h.owned p.key ?_).1
      rw [Part.ownedKeys_visit_of_owner howner]
      exact List.mem_cons_self

/-- The visit of a new part adds its key, and what the part leads to is to be done next. -/
theorem visit (hkeyed : lib.CapturesKeyed) (h : Pending lib met (.visit p :: tasks))
    (hnew : p.key ∉ met) : Pending lib (met ++ [p.key]) (p.tasks lib ++ tasks) := by
  have hp : p.IsWritten lib := h.written p List.mem_cons_self
  have hrest := h.sublist (List.sublist_cons_self _ _)
  have hown : ∀ k ∈ Part.ownedKeys (p.tasks lib), k.owner? = some p.key :=
    fun k hk => Part.owner_of_mem_ownedKeys_tasks hk
  -- Of two patterns of captures that are left, none is met with the other.
  have hother : p.key ∉ Part.ownedKeys tasks := by
    intro hmem
    obtain ⟨_, owner, -, -, howner⟩ := Part.mem_ownedKeys.1 hmem
    have honce := h.once
    rw [Part.ownedKeys_visit_of_owner howner] at honce
    exact (List.nodup_cons.1 honce).1 hmem
  constructor
  · intro q hq
    rcases List.mem_append.1 hq with hq | hq
    · exact (Part.leads_of_mem_tasks hq).isWritten hkeyed hp
    · exact hrest.written q hq
  · exact List.nodup_append.2 ⟨h.nodup, List.nodup_singleton _, fun k hk k' hk' hsame =>
      hnew (List.mem_singleton.1 hk' ▸ hsame ▸ hk)⟩
  · intro k hk owner howner
    refine List.mem_append_left _ ?_
    rcases List.mem_append.1 hk with hk | hk
    · exact h.owners k hk owner howner
    · obtain rfl := List.mem_singleton.1 hk
      refine (h.owned p.key ?_).2 owner howner
      rw [Part.ownedKeys_visit_of_owner howner]
      exact List.mem_cons_self
  · intro k hk
    rw [Part.ownedKeys_append] at hk
    rcases List.mem_append.1 hk with hk | hk
    · refine ⟨fun hmem => ?_, fun owner howner => ?_⟩
      · rcases List.mem_append.1 hmem with hmem | hmem
        · exact hnew (h.owners k hmem _ (hown k hk))
        · -- An entry does not belong to itself.
          have hsame := hown k hk
          rw [List.mem_singleton.1 hmem] at hsame
          cases p <;> cases hsame
      · obtain rfl := Option.some.inj ((hown k hk).symm.trans howner)
        exact List.mem_append_right _ List.mem_cons_self
    · obtain ⟨hunmet, howner⟩ := hrest.owned k hk
      refine ⟨fun hmem => ?_, fun owner h => List.mem_append_left _ (howner owner h)⟩
      rcases List.mem_append.1 hmem with hmem | hmem
      · exact hunmet hmem
      · exact hother (List.mem_singleton.1 hmem ▸ hk)
  · rw [Part.ownedKeys_append]
    refine List.nodup_append.2 ⟨Part.nodup_ownedKeys_tasks hkeyed hp, hrest.once, ?_⟩
    rintro k hk _ hk' rfl
    exact hnew ((hrest.owned k hk').2 _ (hown k hk))

end Pending

end ScopeCheck
