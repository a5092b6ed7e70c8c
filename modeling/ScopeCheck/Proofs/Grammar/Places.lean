import ScopeCheck.Proofs.Grammar.Compiled

/-!
# Where parts are written

`Document.entryAt?` goes to a place of a document.  While a library is compiled, every part that is
visited is written where its key says (`Part.IsWritten`), with repositories around it that are
written in the same document (`Surroundings.Of`):

* `Part.Leads`, `Part.leads_of_mem_tasks`: how what follows from a part comes from it;
* `Part.Leads.isWritten`: it is written where its key says as well;
* `Part.IsWritten.key_mem_keys`: the library knows the keys of such parts;
* `Grammar.CompiledFrom.isWritten`: so are all parts of a compiled grammar.

The entries of a map of captures can be told apart by their keys only
(`Library.CapturesKeyed`).
-/

namespace ScopeCheck

variable {ρ : Type} {engine : RegexEngine ρ} {lib : Library}

/-! ## Places of a document -/

/-- The entry that stands one step inside an entry. -/
def Entry.child? (e : Entry) : Step → Option Entry
  | .pattern i => (e.patterns.getD [])[i]?
  | .repository name => Dictionary.find? name (e.repository.getD [])
  | .capture which key => Dictionary.find? key (e.captureMap which)

namespace Document

/-- The entry that stands one step inside a document. -/
def child? (d : Document) : Step → Option Entry
  | .pattern i => d.patterns[i]?
  | .repository name => Dictionary.find? name d.repository
  | .capture .. => none

/-- The entry at the end of some steps, the last one first. -/
def entryAt? (d : Document) : List Step → Option Entry
  | [] => none
  | [step] => d.child? step
  | step :: outer => (d.entryAt? outer).bind fun e => e.child? step

/-- The repository of an entry, or of the document where there are no steps. -/
def repositoryAt? (d : Document) : List Step → Option (List (String × Entry))
  | [] => some d.repository
  | path => (d.entryAt? path).bind Entry.repository

/-- The patterns of an entry, or of the document where there are no steps. -/
def patternsAt (d : Document) : List Step → List Entry
  | [] => d.patterns
  | path => ((d.entryAt? path).bind Entry.patterns).getD []

variable {d : Document} {path : List Step} {e : Entry}

theorem ne_nil_of_entryAt? (h : d.entryAt? path = some e) : path ≠ [] := by
  rintro rfl
  cases h

theorem entryAt?_cons (h : d.entryAt? path = some e) (step : Step) :
    d.entryAt? (step :: path) = e.child? step := by
  cases path with
  | nil => cases h
  | cons last outer =>
      show (d.entryAt? (last :: outer)).bind (fun e => e.child? step) = e.child? step
      rw [h, Option.bind_some]

theorem repositoryAt?_eq (h : d.entryAt? path = some e) : d.repositoryAt? path = e.repository := by
  cases path with
  | nil => cases h
  | cons last outer =>
      show (d.entryAt? (last :: outer)).bind Entry.repository = e.repository
      rw [h, Option.bind_some]

theorem patternsAt_eq (h : d.entryAt? path = some e) : d.patternsAt path = e.patterns.getD [] := by
  cases path with
  | nil => cases h
  | cons last outer =>
      show ((d.entryAt? (last :: outer)).bind Entry.patterns).getD [] = e.patterns.getD []
      rw [h, Option.bind_some]

theorem entryAt?_pattern {i : Nat} (h : (d.patternsAt path)[i]? = some e) :
    d.entryAt? (.pattern i :: path) = some e := by
  cases path with
  | nil => exact h
  | cons last outer =>
      cases houter : d.entryAt? (last :: outer) with
      | none => simp [patternsAt, houter] at h
      | some owner =>
          rw [patternsAt_eq houter] at h
          rw [entryAt?_cons houter]
          exact h

theorem entryAt?_repository {name : String} {entries : List (String × Entry)}
    (hentries : d.repositoryAt? path = some entries)
    (h : Dictionary.find? name entries = some e) :
    d.entryAt? (.repository name :: path) = some e := by
  cases path with
  | nil =>
      obtain rfl := Option.some.inj hentries
      exact h
  | cons last outer =>
      obtain ⟨owner, howner, hrepository⟩ := Option.bind_eq_some_iff.1 hentries
      rw [entryAt?_cons howner, Entry.child?, hrepository, Option.getD_some]
      exact h

/-- The entries of a document, level by level. -/
def level (d : Document) : Nat → List Entry
  | 0 => d.patterns ++ d.repository.map Prod.snd
  | n + 1 => (d.level n).flatMap fun e => e.inside.map Prod.snd

end Document

theorem Entry.mem_inside_of_child? {e child : Entry} {step : Step}
    (h : e.child? step = some child) : (step, child) ∈ e.inside := by
  unfold Entry.inside
  cases step with
  | pattern i =>
      obtain ⟨hlt, hchild⟩ := List.getElem?_eq_some_iff.1 h
      refine List.mem_append_left _ (List.mem_append_left _ (List.mem_mapIdx.2 ⟨i, hlt, ?_⟩))
      rw [hchild]
  | repository name =>
      refine List.mem_append_left _ (List.mem_append_right _ ?_)
      exact List.mem_map.2 ⟨(name, child), Dictionary.mem_of_find? h, rfl⟩
  | capture which key =>
      refine List.mem_append_right _ (List.mem_flatMap.2 ⟨which, by cases which <;> simp, ?_⟩)
      exact List.mem_map.2 ⟨(key, child), Dictionary.mem_of_find? h, rfl⟩

theorem Entry.self_mem_paths (path : List Step) (e : Entry) : path ∈ e.paths path := by
  rw [Entry.paths]
  exact List.mem_cons_self

theorem Entry.paths_subset {e child : Entry} {step : Step} (path : List Step)
    (h : (step, child) ∈ e.inside) : child.paths (step :: path) ⊆ e.paths path := by
  intro inner hinner
  rw [Entry.paths]
  refine List.mem_cons_of_mem _ (List.mem_flatMap.2 ⟨⟨(step, child), h⟩, ?_, hinner⟩)
  exact List.mem_attach _ _

/-- A document has the steps to all entries that stand in it. -/
theorem Document.mem_paths {d : Document} {path : List Step} {e : Entry}
    (h : d.entryAt? path = some e) : path ∈ d.paths := by
  -- More is shown: the steps to all entries inside of `e` belong to the document.
  have hpaths : e.paths path ⊆ d.paths := by
    induction path generalizing e with
    | nil => cases h
    | cons step outer ih =>
        cases outer with
        | nil =>
            intro inner hinner
            cases step with
            | pattern i =>
                obtain ⟨hlt, hentry⟩ := List.getElem?_eq_some_iff.1 h
                refine List.mem_append_left _ (List.mem_flatten.2 ⟨_, ?_, hinner⟩)
                exact List.mem_mapIdx.2 ⟨i, hlt, by rw [hentry]⟩
            | repository name =>
                refine List.mem_append_right _ ?_
                exact List.mem_flatMap.2 ⟨(name, e), Dictionary.mem_of_find? h, hinner⟩
            | capture which key => cases h
        | cons last rest =>
            obtain ⟨owner, howner, hchild⟩ := Option.bind_eq_some_iff.1 h
            have hinside := Entry.mem_inside_of_child? hchild
            exact List.Subset.trans (Entry.paths_subset _ hinside) (ih howner)
  exact hpaths (Entry.self_mem_paths path e)

/-- The number of steps to an entry is that of its level. -/
theorem Document.mem_level {d : Document} {step : Step} {outer : List Step} {e : Entry}
    (h : d.entryAt? (step :: outer) = some e) : e ∈ d.level outer.length := by
  induction outer generalizing step e with
  | nil =>
      show e ∈ d.patterns ++ d.repository.map Prod.snd
      cases step with
      | pattern i => exact List.mem_append_left _ (List.mem_of_getElem? h)
      | repository name =>
          refine List.mem_append_right _ (List.mem_map.2 ⟨(name, e), ?_, rfl⟩)
          exact Dictionary.mem_of_find? h
      | capture which key => cases h
  | cons last rest ih =>
      obtain ⟨owner, howner, hchild⟩ := Option.bind_eq_some_iff.1 h
      refine List.mem_flatMap.2 ⟨owner, ih howner, List.mem_map.2 ⟨(step, e), ?_, rfl⟩⟩
      exact Entry.mem_inside_of_child? hchild

theorem Document.level_eq_nil {d : Document} {bound : Nat} (h : d.level bound = []) (n : Nat) :
    d.level (bound + n) = [] := by
  induction n with
  | zero => exact h
  | succ n ih =>
      show (d.level (bound + n)).flatMap _ = []
      rw [ih]
      rfl

/-- What holds on all levels up to an empty one holds of all entries that stand in a document. -/
theorem Library.forall_entryAt? {P : Entry → Prop} (bound : Nat)
    (h : ∀ p ∈ lib.documents, p.2.level bound = [] ∧ ∀ n < bound, ∀ e ∈ p.2.level n, P e) :
    ∀ scope d, Dictionary.find? scope lib.documents = some d →
      ∀ path e, d.entryAt? path = some e → P e := by
  intro scope d hd path e he
  obtain ⟨hbound, hlevels⟩ := h (scope, d) (Dictionary.mem_of_find? hd)
  cases path with
  | nil => cases he
  | cons step outer =>
      have hmem := Document.mem_level he
      by_cases hlt : outer.length < bound
      · exact hlevels _ hlt e hmem
      · -- Behind an empty level there are no entries.
        have hempty := Document.level_eq_nil hbound (outer.length - bound)
        rw [Nat.add_sub_cancel' (Nat.not_lt.1 hlt)] at hempty
        rw [hempty] at hmem
        cases hmem

/-! ## Parts that are written where their keys say -/

/-- The place of a key. -/
def Key.place : Key → Place
  | root scope => ⟨scope, []⟩
  | entry place => place
  | contents _ place => place

/-- The patterns that are written at a place. -/
def Library.patternsAt (lib : Library) (place : Place) : List Entry :=
  match Dictionary.find? place.scope lib.documents with
  | some d => d.patternsAt place.path
  | none => []

/-- Every map of captures has one entry for each of its keys, as all maps have that are read
(`FileGrammars.compile_keyed`). -/
def Library.CapturesKeyed (lib : Library) : Prop :=
  ∀ scope d, Dictionary.find? scope lib.documents = some d →
    ∀ path e, d.entryAt? path = some e → ∀ which, ((e.captureMap which).map Prod.fst).Nodup

theorem Library.capturesKeyed_of_levels (bound : Nat)
    (h : ∀ p ∈ lib.documents, p.2.level bound = [] ∧ ∀ n < bound, ∀ e ∈ p.2.level n,
      ∀ which ∈ [CaptureMap.whole, .first, .last, .condition],
        ((e.captureMap which).map Prod.fst).Nodup) : lib.CapturesKeyed := by
  intro scope d hd path e he which
  exact Library.forall_entryAt? bound h scope d hd path e he which (by cases which <;> simp)

/-- What is around an entry is written in a document of the library. -/
structure Surroundings.Of (around : Surroundings) (lib : Library) (d : Document) : Prop where
  document : Dictionary.find? around.scope lib.documents = some d
  repositories : ∀ r ∈ around.repositories, d.repositoryAt? r.owner = some r.entries

/-- A part is written where its key says. -/
def Part.IsWritten (lib : Library) : Part → Prop
  | .root scope d => Dictionary.find? scope lib.documents = some d
  | .entry path e around => ∃ d, around.Of lib d ∧ d.entryAt? path = some e
  | .contents _ path e around => ∃ d, around.Of lib d ∧ d.entryAt? path = some e

theorem Document.surroundings_of {scope : String} {d : Document}
    (h : Dictionary.find? scope lib.documents = some d) : (d.surroundings scope).Of lib d where
  document := h
  repositories := by
    intro r hr
    obtain rfl := List.mem_singleton.1 hr
    rfl

/-- A name is found in one of the repositories. -/
theorem mem_of_findNamed {name : String} {repositories : List Repository} {path : List Step}
    {e : Entry} (h : findNamed name repositories = some (path, e)) :
    ∃ r ∈ repositories, path = .repository name :: r.owner ∧
      Dictionary.find? name r.entries = some e := by
  induction repositories with
  | nil => cases h
  | cons r outer ih =>
      rw [findNamed] at h
      split at h
      · rename_i own hown
        obtain ⟨rfl, rfl⟩ := Prod.mk.inj (Option.some.inj h)
        exact ⟨r, List.mem_cons_self, rfl, hown⟩
      · obtain ⟨r', hr', hfound⟩ := ih h
        exact ⟨r', List.mem_cons_of_mem _ hr', hfound⟩

theorem Surroundings.Of.entryAt?_findNamed {around : Surroundings} {d : Document}
    (h : around.Of lib d) {name : String} {path : List Step} {e : Entry}
    (hfound : findNamed name around.repositories = some (path, e)) : d.entryAt? path = some e := by
  obtain ⟨r, hr, rfl, hentry⟩ := mem_of_findNamed hfound
  exact Document.entryAt?_repository (h.repositories r hr) hentry

namespace Part

variable {p q : Part}

/-- What is around the entries of a part is written in the document of the part. -/
theorem IsWritten.inner (h : p.IsWritten lib) : ∃ d, p.inner.Of lib d := by
  cases p with
  | root scope d => exact ⟨d, Document.surroundings_of h⟩
  | contents which path e around =>
      obtain ⟨d, haround, _⟩ := h
      exact ⟨d, haround⟩
  | entry path e around =>
      obtain ⟨d, haround, he⟩ := h
      refine ⟨d, ?_⟩
      rw [Part.inner]
      split
      · rename_i entries hentries
        refine ⟨haround.document, ?_⟩
        intro r hr
        rcases List.mem_cons.1 hr with rfl | hr
        · exact (Document.repositoryAt?_eq he).trans hentries
        · exact haround.repositories r hr
      · exact haround

/-- There is one document in which an entry can be written. -/
theorem IsWritten.entryAt? {path : List Step} {e : Entry} {around : Surroundings} {d : Document}
    (h : (Part.entry path e around).IsWritten lib)
    (hd : Dictionary.find? around.scope lib.documents = some d) : d.entryAt? path = some e := by
  obtain ⟨document, haround, he⟩ := h
  obtain rfl : document = d := Option.some.inj (haround.document.symm.trans hd)
  exact he

theorem inner_scope (p : Part) : p.inner.scope = p.key.place.scope := by
  cases p with
  | root scope d => rfl
  | contents which path e around => rfl
  | entry path e around =>
      rw [Part.inner]
      split <;> rfl

theorem written_path (p : Part) : p.written.1 = p.key.place.path := by
  cases p with
  | root scope d => rfl
  | contents which path e around => rfl
  | entry path e around =>
      rw [written]
      split <;> rfl

theorem patternsAt_eq {d : Document} (hd : p.inner.Of lib d) :
    lib.patternsAt p.key.place = d.patternsAt p.key.place.path := by
  have hdocument := hd.document
  rw [inner_scope] at hdocument
  rw [Library.patternsAt, hdocument]

/-- The patterns of a part are those that are written at its place, unless it is a single match. -/
theorem IsWritten.written_eq (h : p.IsWritten lib) :
    p.written.2 = lib.patternsAt p.key.place ∨
      ∃ path e around source, p = .entry path e around ∧ e.shape = .single source := by
  obtain ⟨d, hd⟩ := h.inner
  rw [patternsAt_eq hd]
  have hdocument := hd.document
  rw [inner_scope] at hdocument
  cases p with
  | root scope document =>
      obtain rfl : document = d := Option.some.inj (h.symm.trans hdocument)
      exact Or.inl rfl
  | contents which path e around =>
      have he : (Part.entry path e around).IsWritten lib := h
      exact Or.inl (Document.patternsAt_eq (he.entryAt? hdocument)).symm
  | entry path e around =>
      have hpatterns : d.patternsAt (Part.entry path e around).key.place.path =
          e.patterns.getD [] := Document.patternsAt_eq (h.entryAt? hdocument)
      cases hshape : e.shape with
      | single source => exact Or.inr ⟨path, e, around, source, rfl, hshape⟩
      | region first last => exact Or.inl (by rw [hpatterns, written, hshape])
      | during first condition => exact Or.inl (by rw [hpatterns, written, hshape])
      | container => exact Or.inl (by rw [hpatterns, written, hshape])

/-- What is written in a part is written at its place. -/
theorem IsWritten.getElem?_patternsAt {d : Document} (h : p.IsWritten lib) (hd : p.inner.Of lib d)
    {i : Nat} {e : Entry} (he : p.written.2[i]? = some e) :
    (d.patternsAt p.key.place.path)[i]? = some e := by
  rw [← patternsAt_eq hd]
  rcases h.written_eq with hwritten | ⟨path, single, around, source, rfl, hshape⟩
  · exact hwritten ▸ he
  · simp [written, hshape] at he

/-- The parts that a list of patterns stands for, one by one. -/
theorem mem_patterns : q ∈ p.patterns lib ↔ ∃ i e, p.written.2[i]? = some e ∧
    lib.standsFor p.inner (.pattern i :: p.written.1) e = some q := by
  simp only [Part.patterns, Library.listed, List.mem_filterMap, List.mem_mapIdx, id_eq,
    exists_eq_right]
  constructor
  · rintro ⟨i, hlt, hq⟩
    exact ⟨i, _, List.getElem?_eq_getElem hlt, hq⟩
  · rintro ⟨i, e, he, hq⟩
    obtain ⟨hlt, rfl⟩ := List.getElem?_eq_some_iff.1 he
    exact ⟨i, hlt, hq⟩

end Part

/-- The captures that are in use are those of the map that they stand in. -/
theorem Entry.capturesFor_eq (e : Entry) (which : CaptureMap) :
    (e.capturesFor which).2 = e.captureMap (e.capturesFor which).1 := by
  obtain ⟨reference, name, contentName, m, b, en, w, c, bc, ec, wc, patterns, repository, l, d⟩ := e
  cases which with
  | whole => rfl
  | first => cases bc <;> rfl
  | last => cases ec <;> rfl
  | condition => cases wc <;> rfl

theorem Dictionary.find?_of_mem {α : Type} {key : String} {value : α} {pairs : List (String × α)}
    (hkeys : (pairs.map Prod.fst).Nodup) (h : (key, value) ∈ pairs) :
    Dictionary.find? key pairs = some value := by
  induction pairs with
  | nil => cases h
  | cons pair rest ih =>
      obtain ⟨k, v⟩ := pair
      rw [List.map_cons, List.nodup_cons] at hkeys
      rcases List.mem_cons.1 h with hfirst | h
      · obtain ⟨rfl, rfl⟩ := Prod.mk.inj hfirst
        rw [Dictionary.find?, if_pos rfl]
      · have hne : k ≠ key := by
          rintro rfl
          exact hkeys.1 (List.mem_map.2 ⟨(k, value), h, rfl⟩)
        rw [Dictionary.find?, if_neg hne]
        exact ih hkeys.2 h

/-! ## What follows from a part -/

namespace Part

variable {p q : Part}

/-- How one part leads to another one. -/
inductive Leads (lib : Library) : Part → Part → Prop
  /-- An include names a grammar, -/
  | grammar {p : Part} {scope : String} {d : Document}
      (document : Dictionary.find? scope lib.documents = some d) : Leads lib p (.root scope d)
  /-- or an entry of its repository. -/
  | entryOf {p : Part} {scope name : String} {d : Document} {e : Entry}
      (document : Dictionary.find? scope lib.documents = some d)
      (found : Dictionary.find? name d.repository = some e) :
      Leads lib p (.entry [.repository name] e (d.surroundings scope))
  /-- The entry stands in the patterns of the part. -/
  | pattern {p : Part} {i : Nat} {e : Entry} (written : p.written.2[i]? = some e) :
      Leads lib p (.entry (.pattern i :: p.written.1) e p.inner)
  /-- An include in the patterns of the part names an entry of a repository around. -/
  | named {p : Part} {i : Nat} {e found : Entry} {text name : String} {path : List Step}
      (written : p.written.2[i]? = some e) (reference : e.reference = some text)
      (target : Target.ofText text = .named name)
      (found_eq : findNamed name p.inner.repositories = some (path, found)) :
      Leads lib p (.entry path found p.inner)
  /-- A capture has patterns.  Its map may be that of other captures than those it is one of. -/
  | capture {path : List Step} {e capture : Entry} {around : Surroundings}
      {which map : CaptureMap} {key : String} (written : (key, capture) ∈ e.captureMap map) :
      Leads lib (.entry path e around)
        (.contents which (.capture map key :: path) capture (Part.entry path e around).inner)

theorem leads_of_root {scope : String} (h : lib.root scope = some q) : Leads lib p q := by
  obtain ⟨d, hd, rfl⟩ := Option.map_eq_some_iff.1 h
  exact .grammar hd

theorem eq_of_enabled {path : List Step} {e : Entry} {around : Surroundings}
    (h : Library.enabled path e around = some q) : q = .entry path e around := by
  unfold Library.enabled at h
  split at h
  · cases h
  · exact (Option.some.inj h).symm

/-- An include leads to what it names. -/
theorem leads_of_included {i : Nat} {e : Entry} {text : String} (he : p.written.2[i]? = some e)
    (hreference : e.reference = some text)
    (h : lib.included p.inner (Target.ofText text) = some q) : Leads lib p q := by
  cases htarget : Target.ofText text with
  | self =>
      rw [htarget] at h
      exact leads_of_root h
  | base =>
      rw [htarget] at h
      exact leads_of_root h
  | grammar scope =>
      rw [htarget] at h
      exact leads_of_root h
  | named name =>
      rw [htarget] at h
      obtain ⟨⟨path, found⟩, hfound, henabled⟩ := Option.bind_eq_some_iff.1 h
      obtain rfl := eq_of_enabled henabled
      exact .named he hreference htarget hfound
  | entryOf scope name =>
      rw [htarget] at h
      obtain ⟨d, hd, hentry⟩ := Option.bind_eq_some_iff.1 h
      obtain ⟨found, hfound, henabled⟩ := Option.bind_eq_some_iff.1 hentry
      obtain rfl := eq_of_enabled henabled
      exact .entryOf hd hfound

theorem leads_of_mem_patterns (h : q ∈ p.patterns lib) : Leads lib p q := by
  obtain ⟨i, e, he, hstands⟩ := mem_patterns.1 h
  unfold Library.standsFor at hstands
  split at hstands
  · rename_i text hreference
    exact leads_of_included he hreference hstands
  · obtain rfl := eq_of_enabled hstands
    exact .pattern he

theorem leads_of_mem_captureContents {path : List Step} {e : Entry} {around : Surroundings}
    {which : CaptureMap}
    (h : q ∈ captureContents path e (Part.entry path e around).inner which) :
    Leads lib (.entry path e around) q := by
  obtain ⟨⟨number, steps, capture⟩, hcapture, hpatterns⟩ := List.mem_filterMap.1 h
  obtain ⟨_, _, rfl⟩ := Option.map_eq_some_iff.1 hpatterns
  obtain ⟨⟨key, entry⟩, hmem, hnumber⟩ := List.mem_filterMap.1 hcapture
  obtain ⟨_, _, hsame⟩ := Option.map_eq_some_iff.1 hnumber
  obtain ⟨rfl, rfl⟩ : Step.capture (e.capturesFor which).1 key :: path = steps ∧
      entry = capture := Prod.mk.inj (Prod.mk.inj hsame).2
  refine .capture ?_
  rw [← Entry.capturesFor_eq]
  exact hmem

/-- What follows from a part are its patterns, and the patterns inside its captures. -/
theorem leads_of_mem_tasks (h : .visit q ∈ p.tasks lib) : Leads lib p q := by
  have hvisit : ∀ {parts : List Part}, Task.visit q ∈ parts.map Task.visit → q ∈ parts := by
    intro parts hmem
    obtain ⟨own, hown, hsame⟩ := List.mem_map.1 hmem
    exact Task.visit.inj hsame ▸ hown
  cases p with
  | root scope d => exact leads_of_mem_patterns (hvisit h)
  | contents which path e around => exact leads_of_mem_patterns (hvisit h)
  | entry path e around =>
      rw [tasks] at h
      cases hshape : e.shape with
      | container =>
          rw [hshape] at h
          exact leads_of_mem_patterns (hvisit h)
      | single source =>
          rw [hshape] at h
          rcases List.mem_cons.1 h with hcheck | h
          · cases hcheck
          · exact leads_of_mem_captureContents (hvisit h)
      | region first last =>
          simp only [hshape, List.mem_append, List.mem_cons, reduceCtorEq, false_or] at h
          rcases h with (h | h) | h
          · exact leads_of_mem_patterns (hvisit h)
          · exact leads_of_mem_captureContents (hvisit h)
          · exact leads_of_mem_captureContents (hvisit h)
      | during first condition =>
          simp only [hshape, List.mem_append, List.mem_cons, reduceCtorEq, false_or] at h
          rcases h with (h | h) | h
          · exact leads_of_mem_patterns (hvisit h)
          · exact leads_of_mem_captureContents (hvisit h)
          · exact leads_of_mem_captureContents (hvisit h)

/-- The patterns of a part are visited after it. -/
theorem visit_mem_tasks (h : q ∈ p.patterns lib) : .visit q ∈ p.tasks lib := by
  have hvisit : Task.visit q ∈ (p.patterns lib).map Task.visit := List.mem_map.2 ⟨q, h, rfl⟩
  cases p with
  | root scope d => exact hvisit
  | contents which path e around => exact hvisit
  | entry path e around =>
      rw [tasks]
      cases hshape : e.shape with
      | container => exact hvisit
      | single source =>
          -- A single match has no patterns.
          obtain ⟨i, inner, hinner, _⟩ := mem_patterns.1 h
          simp [written, hshape] at hinner
      | region first last => exact List.mem_append_left _ (List.mem_append_left _ hvisit)
      | during first condition => exact List.mem_append_left _ (List.mem_append_left _ hvisit)

theorem Leads.isWritten (hkeyed : lib.CapturesKeyed) (h : Leads lib p q) (hp : p.IsWritten lib) :
    q.IsWritten lib := by
  cases h with
  | grammar hdocument => exact hdocument
  | @entryOf _ scope name d e hdocument hfound =>
      have he : d.entryAt? [.repository name] = some e := hfound
      exact ⟨d, Document.surroundings_of hdocument, he⟩
  | @pattern _ i e he =>
      obtain ⟨d, hd⟩ := hp.inner
      refine ⟨d, hd, Document.entryAt?_pattern ?_⟩
      rw [written_path]
      exact hp.getElem?_patternsAt hd he
  | named _ _ _ hfound =>
      obtain ⟨d, hd⟩ := hp.inner
      exact ⟨d, hd, hd.entryAt?_findNamed hfound⟩
  | @capture path e capture around which map key hmem =>
      obtain ⟨d, hd⟩ := IsWritten.inner hp
      have hdocument := hd.document
      rw [inner_scope] at hdocument
      have he := hp.entryAt? hdocument
      refine ⟨d, hd, ?_⟩
      -- The key tells the capture apart from the others of its map.
      rw [Document.entryAt?_cons he]
      exact Dictionary.find?_of_mem (hkeyed _ d hdocument path e he map) hmem

theorem IsWritten.key_mem_keys (h : p.IsWritten lib) : p.key ∈ lib.keys := by
  unfold Library.keys
  cases p with
  | root scope d =>
      exact List.mem_flatMap.2 ⟨(scope, d), Dictionary.mem_of_find? h, List.mem_cons_self⟩
  | entry path e around =>
      obtain ⟨d, haround, he⟩ := h
      refine List.mem_flatMap.2 ⟨(around.scope, d), Dictionary.mem_of_find? haround.document, ?_⟩
      refine List.mem_cons_of_mem _ (List.mem_flatMap.2 ⟨path, Document.mem_paths he, ?_⟩)
      exact List.mem_cons_self
  | contents which path e around =>
      obtain ⟨d, haround, he⟩ := h
      refine List.mem_flatMap.2 ⟨(around.scope, d), Dictionary.mem_of_find? haround.document, ?_⟩
      refine List.mem_cons_of_mem _ (List.mem_flatMap.2 ⟨path, Document.mem_paths he, ?_⟩)
      refine List.mem_cons_of_mem _ (List.mem_map.2 ⟨which, ?_, rfl⟩)
      cases which <;> decide

end Part

namespace Grammar.CompiledFrom

variable {g : Grammar ρ} {parts : List Part}

/-- All parts of a compiled grammar are written where their keys say. -/
theorem isWritten (hkeyed : lib.CapturesKeyed) (h : g.CompiledFrom engine lib parts) :
    ∀ p ∈ parts, p.IsWritten lib :=
  h.induction (fun _ hd => hd) fun _ _ hp hq => (Part.leads_of_mem_tasks hq).isWritten hkeyed hp

/-- The parts that a list of patterns stands for are among those of the grammar. -/
theorem number_of_mem_patterns (hkeyed : lib.CapturesKeyed) (h : g.CompiledFrom engine lib parts)
    {p q : Part} (hp : p ∈ parts) (hq : q ∈ p.patterns lib) :
    ∃ id q', numbering parts q.key = some id ∧ parts[id]? = some q' ∧ q'.key = q.key := by
  have hwritten := (Part.leads_of_mem_patterns hq).isWritten hkeyed (h.isWritten hkeyed p hp)
  obtain ⟨id, hid⟩ := h.exists_number hp (Part.visit_mem_tasks hq) hwritten.key_mem_keys
  obtain ⟨q', hq', hkey⟩ := key_of_numbering hid
  exact ⟨id, q', hid, hq', hkey⟩

end Grammar.CompiledFrom

end ScopeCheck
