import ScopeCheck.Proofs.Grammar.Places

/-!
# Documents with a key once in each map

The maps of a document are lists of keys and entries.  A document is `Keyed` if no such list has a
key twice, neither the repository nor any map inside of the entries.  Then the places in it can be
told apart:

* `Entry.keyed_iff`: what this means for an entry, map by map;
* `Document.Keyed.paths_nodup`: the steps to the entries of a document are different;
* `Library.Keyed.capturesKeyed`, `Library.Keyed.keys_nodup`: so are the keys of the parts of a
  library, if it has one document for a scope.
-/

namespace ScopeCheck

/-! ## Entries whose maps have a key once -/

/-- Each map of an entry has a key once. -/
structure Entry.HasKeys (e : Entry) : Prop where
  repository : ((e.repository.getD []).map Prod.fst).Nodup
  captures : ∀ which, ((e.captureMap which).map Prod.fst).Nodup

/-- Each map of an entry has a key once, and so have the maps of all entries inside of it. -/
inductive Entry.Keyed : Entry → Prop
  | intro {e : Entry} (own : e.HasKeys) (inside : ∀ p ∈ e.inside, Keyed p.2) : Keyed e

/-- A map has a key once, and so have the maps inside of it. -/
structure KeyedMap (entries : List (String × Entry)) : Prop where
  keys : (entries.map Prod.fst).Nodup
  entries : ∀ p ∈ entries, p.2.Keyed

/-- The repository has a key once, and so have all maps of the entries. -/
structure Document.Keyed (d : Document) : Prop where
  patterns : ∀ e ∈ d.patterns, e.Keyed
  repository : KeyedMap d.repository

theorem keyedMap_nil : KeyedMap [] where
  keys := List.Pairwise.nil
  entries := fun _ hp => absurd hp List.not_mem_nil

namespace Entry

variable {e : Entry}

theorem keyed_iff : e.Keyed ↔ (∀ child ∈ e.patterns.getD [], child.Keyed) ∧
    KeyedMap (e.repository.getD []) ∧ ∀ which, KeyedMap (e.captureMap which) := by
  constructor
  · rintro ⟨hown, hinside⟩
    refine ⟨?_, ⟨hown.repository, ?_⟩, fun which => ⟨hown.captures which, ?_⟩⟩
    · intro child hchild
      obtain ⟨i, hi⟩ := List.getElem?_of_mem hchild
      have hchild : e.child? (.pattern i) = some child := hi
      exact hinside _ (mem_inside_of_child? hchild)
    · intro p hp
      refine hinside (.repository p.1, p.2) ?_
      exact List.mem_append_left _ (List.mem_append_right _ (List.mem_map.2 ⟨p, hp, rfl⟩))
    · intro p hp
      refine hinside (.capture which p.1, p.2) (List.mem_append_right _ ?_)
      refine List.mem_flatMap.2 ⟨which, by cases which <;> simp, ?_⟩
      exact List.mem_map.2 ⟨p, hp, rfl⟩
  · rintro ⟨hpatterns, hrepository, hcaptures⟩
    refine .intro ⟨hrepository.keys, fun which => (hcaptures which).keys⟩ fun p hp => ?_
    rcases List.mem_append.1 hp with hp | hp
    · rcases List.mem_append.1 hp with hp | hp
      · obtain ⟨i, hi, rfl⟩ := List.mem_mapIdx.1 hp
        exact hpatterns _ (List.getElem_mem hi)
      · obtain ⟨q, hq, rfl⟩ := List.mem_map.1 hp
        exact hrepository.entries q hq
    · obtain ⟨which, -, hp⟩ := List.mem_flatMap.1 hp
      obtain ⟨q, hq, rfl⟩ := List.mem_map.1 hp
      exact (hcaptures which).entries q hq

theorem keyed_blank : blank.Keyed := by
  refine keyed_iff.2 ⟨fun _ h => absurd h List.not_mem_nil, keyedMap_nil, fun which => ?_⟩
  cases which <;> exact keyedMap_nil

theorem Keyed.setPatterns (h : e.Keyed) {entries : Option (List Entry)}
    (hentries : ∀ child ∈ entries.getD [], child.Keyed) :
    Keyed { e with patterns := entries } := by
  obtain ⟨-, hrepository, hcaptures⟩ := keyed_iff.1 h
  exact keyed_iff.2 ⟨hentries, hrepository, hcaptures⟩

end Entry

theorem Document.keyed_blank : blank.Keyed where
  patterns := fun _ h => absurd h List.not_mem_nil
  repository := keyedMap_nil

/-! ## Different steps lead to different entries -/

namespace Entry

variable {e : Entry}

/-- Different entries inside of an entry are one step apart. -/
theorem HasKeys.steps (h : e.HasKeys) : e.inside.Pairwise fun p q => p.1 ≠ q.1 := by
  have hpairs : ∀ (step : String → Step) (pairs : List (String × Entry)),
      (∀ key key', step key = step key' → key = key') → (pairs.map Prod.fst).Nodup →
        (pairs.map fun p => (step p.1, p.2)).Pairwise fun p q => p.1 ≠ q.1 := by
    intro step pairs hstep hkeys
    refine List.pairwise_map.2 ((List.pairwise_map.1 hkeys).imp fun hne hsame => ?_)
    exact hne (hstep _ _ hsame)
  -- Two of the same kind differ in their keys; a pattern, an entry of the repository and a capture
  -- are never reached by one step.
  refine List.pairwise_append.2 ⟨List.pairwise_append.2 ⟨?_, ?_, ?_⟩, ?_, ?_⟩
  · refine List.pairwise_iff_getElem.2 fun i j hi hj hlt => ?_
    simp only [List.getElem_mapIdx, ne_eq, Step.pattern.injEq]
    exact Nat.ne_of_lt hlt
  · exact hpairs .repository _ (fun _ _ => Step.repository.inj) h.repository
  · intro p hp q hq
    obtain ⟨i, hi, rfl⟩ := List.mem_mapIdx.1 hp
    obtain ⟨r, -, rfl⟩ := List.mem_map.1 hq
    exact Step.noConfusion
  · refine List.pairwise_flatMap.2 ⟨fun which _ => ?_, ?_⟩
    · exact hpairs (.capture which) _ (fun _ _ hsame => (Step.capture.inj hsame).2)
        (h.captures which)
    · have hmaps : [CaptureMap.whole, .first, .last, .condition].Pairwise (· ≠ ·) := by decide
      refine hmaps.imp fun hne p hp q hq hsame => ?_
      obtain ⟨r, -, rfl⟩ := List.mem_map.1 hp
      obtain ⟨r', -, rfl⟩ := List.mem_map.1 hq
      exact hne (Step.capture.inj hsame).1
  · intro p hp q hq
    obtain ⟨which, -, hq⟩ := List.mem_flatMap.1 hq
    obtain ⟨r, -, rfl⟩ := List.mem_map.1 hq
    rcases List.mem_append.1 hp with hp | hp
    · obtain ⟨i, hi, rfl⟩ := List.mem_mapIdx.1 hp
      exact Step.noConfusion
    · obtain ⟨r', -, rfl⟩ := List.mem_map.1 hp
      exact Step.noConfusion

theorem paths_eq (path : List Step) (e : Entry) :
    e.paths path = path :: e.inside.flatMap fun p => p.2.paths (p.1 :: path) := by
  rw [paths]
  show path :: e.inside.attach.flatMap (fun p => p.1.2.paths (p.1.1 :: path)) = _
  rw [← List.flatMap_map Subtype.val fun p : Step × Entry => p.2.paths (p.1 :: path),
    List.attach_map_subtype_val]

/-- The steps to what is inside of an entry begin with the steps to the entry. -/
theorem suffix_of_mem_paths {path inner : List Step} (h : inner ∈ e.paths path) :
    path <:+ inner := by
  fun_induction Entry.paths path e with
  | case1 path e ih =>
      rcases List.mem_cons.1 h with rfl | h
      · exact List.suffix_refl _
      · obtain ⟨⟨p, hp⟩, -, hinner⟩ := List.mem_flatMap.1 h
        exact (List.suffix_cons _ _).trans (ih p hp hinner)

theorem Keyed.paths_nodup (h : e.Keyed) (path : List Step) : (e.paths path).Nodup := by
  induction h generalizing path with
  | @intro e hown _ ih =>
      rw [paths_eq]
      refine List.nodup_cons.2 ⟨fun hmem => ?_, List.pairwise_flatMap.2 ⟨?_, ?_⟩⟩
      · -- More steps lead to the entries inside.
        obtain ⟨p, -, hp⟩ := List.mem_flatMap.1 hmem
        have hlength := (suffix_of_mem_paths hp).length_le
        exact Nat.not_succ_le_self _ hlength
      · exact fun p hp => ih p hp (p.1 :: path)
      · -- Two steps of the same number cannot lead to one place.
        refine hown.steps.imp fun {p q} hne inner hp inner' hq hsame => hne ?_
        subst hsame
        have hsuffix := List.suffix_of_suffix_length_le (suffix_of_mem_paths hp)
          (suffix_of_mem_paths hq) (Nat.le_refl _)
        exact (List.cons.inj (hsuffix.eq_of_length rfl)).1

end Entry

namespace Document

variable {d : Document}

/-- The patterns and the repository of a document, as those of an entry. -/
def asEntry (d : Document) : Entry :=
  { Entry.blank with patterns := some d.patterns, repository := some d.repository }

theorem inside_asEntry (d : Document) : d.asEntry.inside =
    (d.patterns.mapIdx fun i e => (.pattern i, e)) ++
      d.repository.map fun p => (.repository p.1, p.2) := by
  simp [Entry.inside, asEntry, Entry.blank, Entry.captureMap]

theorem paths_asEntry (d : Document) : d.asEntry.paths [] = [] :: d.paths := by
  rw [Entry.paths_eq, inside_asEntry, List.flatMap_append, List.flatMap_map, paths]
  congr 2
  rw [List.flatMap_def, List.mapIdx_eq_zipIdx_map, List.mapIdx_eq_zipIdx_map, List.map_map]
  rfl

theorem Keyed.asEntry (h : d.Keyed) : d.asEntry.Keyed := by
  refine Entry.keyed_iff.2 ⟨h.patterns, h.repository, fun which => ?_⟩
  cases which <;> exact keyedMap_nil

/-- The steps to the entries of a document are different. -/
theorem Keyed.paths_nodup (h : d.Keyed) : d.paths.Nodup := by
  have hpaths := h.asEntry.paths_nodup []
  rw [paths_asEntry] at hpaths
  exact (List.nodup_cons.1 hpaths).2

theorem Keyed.entryAt? (h : d.Keyed) {path : List Step} {e : Entry}
    (he : d.entryAt? path = some e) : e.Keyed := by
  have hinside : ∀ {e child : Entry} {step : Step}, e.Keyed → e.child? step = some child →
      child.Keyed := by
    rintro e child step ⟨-, hinside⟩ hchild
    exact hinside _ (Entry.mem_inside_of_child? hchild)
  induction path generalizing e with
  | nil => cases he
  | cons step outer ih =>
      cases outer with
      | nil =>
          cases step with
          | pattern i => exact h.patterns e (List.mem_of_getElem? he)
          | repository name => exact h.repository.entries _ (Dictionary.mem_of_find? he)
          | capture which key => cases he
      | cons last rest =>
          obtain ⟨owner, howner, hchild⟩ := Option.bind_eq_some_iff.1 he
          exact hinside (ih howner) hchild

end Document

/-! ## Libraries of such documents -/

/-- An entry at a place, and its patterns if it is a capture, are known by these keys. -/
theorem Key.place_of_mem {key : Key} {place : Place} {which : List CaptureMap}
    (h : key ∈ Key.entry place :: which.map (.contents · place)) : key.place = place := by
  rcases List.mem_cons.1 h with rfl | h
  · rfl
  · obtain ⟨_, -, rfl⟩ := List.mem_map.1 h
    rfl

namespace Library

variable {lib : Library}

/-- There is one document for a scope, and the documents have a key once in each map. -/
structure Keyed (lib : Library) : Prop where
  scopes : (lib.documents.map Prod.fst).Nodup
  documents : ∀ p ∈ lib.documents, p.2.Keyed

theorem Keyed.capturesKeyed (h : lib.Keyed) : lib.CapturesKeyed := by
  intro scope d hd path e he which
  obtain ⟨hown, -⟩ := (h.documents _ (Dictionary.mem_of_find? hd)).entryAt? he
  exact hown.captures which

/-- All that a part can be known by is different. -/
theorem Keyed.keys_nodup (h : lib.Keyed) : lib.keys.Nodup := by
  refine List.pairwise_flatMap.2 ⟨fun p hp => ?_, ?_⟩
  · refine List.nodup_cons.2 ⟨fun hmem => ?_, List.pairwise_flatMap.2 ⟨?_, ?_⟩⟩
    · obtain ⟨path, -, hpath⟩ := List.mem_flatMap.1 hmem
      simp at hpath
    · intro path _
      simp
    · refine (h.documents p hp).paths_nodup.imp fun hne key hkey key' hkey' hsame => hne ?_
      subst hsame
      have hplace := (Key.place_of_mem hkey).symm.trans (Key.place_of_mem hkey')
      exact congrArg Place.path hplace
  · refine (List.pairwise_map.1 h.scopes).imp fun hne key hkey key' hkey' hsame => hne ?_
    subst hsame
    have hscope : ∀ {p : String × Document},
        key ∈ Key.root p.1 :: p.2.paths.flatMap (fun path =>
          .entry ⟨p.1, path⟩ :: [CaptureMap.whole, .first, .last, .condition].map
            (.contents · ⟨p.1, path⟩)) → key.place.scope = p.1 := by
      intro p hkey
      rcases List.mem_cons.1 hkey with rfl | hkey
      · rfl
      · obtain ⟨path, -, hkey⟩ := List.mem_flatMap.1 hkey
        exact congrArg Place.scope (Key.place_of_mem hkey)
    exact (hscope hkey).symm.trans (hscope hkey')

end Library

end ScopeCheck
