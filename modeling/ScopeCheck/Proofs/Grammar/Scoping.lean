import ScopeCheck.Proofs.Grammar.Reading

/-!
# Names with several repositories around them

An entry may have a repository of its own.  Where an include stands, the repositories that enclose
it are `Document.enclosing`; where a part is compiled, the repositories around it are those of the
entries that the includes have led through.  The latter also hold the former, in the same order
(`Part.Nested`), and none twice (`Part.SeenAround`), but there may be others among them.

* `findNamed_of_sublist`: the others do no harm if they do not have the name;
* `Library.Scoped`: if an include leads out of an entry, the names of the repository of this entry
  are only included inside of it;
* `Grammar.compile_reads_enclosing`: then a name denotes what it denotes where it is written.

`Grammar.order_decides_names` says that it may denote something else otherwise, and that the order
of the patterns decides.
-/

namespace ScopeCheck

variable {ρ : Type} {engine : RegexEngine ρ} {lib : Library}

/-! ## The repositories that enclose a place -/

namespace Document

/-- The repositories that enclose the patterns of a place, innermost first. -/
def enclosing (d : Document) : List Step → List Repository
  | [] => [⟨[], d.repository⟩]
  | step :: outer =>
    match d.repositoryAt? (step :: outer) with
    | some entries => ⟨step :: outer, entries⟩ :: d.enclosing outer
    | none => d.enclosing outer

variable {d : Document}

theorem mem_enclosing_self (path : List Step) : ⟨[], d.repository⟩ ∈ d.enclosing path := by
  induction path with
  | nil => exact List.mem_singleton.2 rfl
  | cons step outer ih =>
      rw [enclosing]
      split
      · exact List.mem_cons_of_mem _ ih
      · exact ih

/-- The repository of an entry encloses everything inside of the entry. -/
theorem mem_enclosing {owner path : List Step} {entries : List (String × Entry)}
    (howner : owner <:+ path) (h : d.repositoryAt? owner = some entries) :
    ⟨owner, entries⟩ ∈ d.enclosing path := by
  induction path with
  | nil =>
      obtain rfl := List.suffix_nil.1 howner
      obtain rfl := Option.some.inj h
      exact mem_enclosing_self []
  | cons step outer ih =>
      rw [enclosing]
      rcases List.suffix_cons_iff.1 howner with rfl | hinside
      · rw [h]
        exact List.mem_cons_self
      · have ih := ih hinside
        split
        · exact List.mem_cons_of_mem _ ih
        · exact ih

end Document

/-- A name denotes an entry of the innermost repository that has it, among those that enclose the
place where it is included. -/
def Library.enclosingNames (lib : Library) : Naming := fun place name =>
  (Dictionary.find? place.scope lib.documents).bind fun d => findNamed name (d.enclosing place.path)

/-- An include inside of an entry leads out of it: it names an entry that stands elsewhere. -/
def Document.Leaks (d : Document) (owner : List Step) : Prop :=
  ∃ (path : List Step) (e : Entry) (text name : String) (found : List Step × Entry),
    owner <:+ path ∧ e ∈ d.patternsAt path ∧ e.reference = some text ∧
      Target.ofText text = .named name ∧ findNamed name (d.enclosing path) = some found ∧
      ¬ owner <:+ found.1

/-- If an include leads out of an entry, the names of the repository of this entry are only included
inside of it.  Captures have no repository. -/
structure Library.Scoped (lib : Library) : Prop where
  names : ∀ scope d, Dictionary.find? scope lib.documents = some d →
    ∀ owner entries name, d.repositoryAt? owner = some entries →
      (Dictionary.find? name entries).isSome → d.Leaks owner →
        ∀ path e text, e ∈ d.patternsAt path → e.reference = some text →
          Target.ofText text = .named name → owner <:+ path
  captures : ∀ scope d, Dictionary.find? scope lib.documents = some d →
    ∀ which key path, d.repositoryAt? (.capture which key :: path) = none

namespace Document

/-- The places of a document that may have patterns or a repository. -/
def places (d : Document) : List (List Step) := [] :: d.paths

/-- Whether an entry in the patterns of a place includes something that stands outside of another
place. -/
def leadsOut (d : Document) (owner path : List Step) (e : Entry) : Bool :=
  match e.reference.map Target.ofText with
  | some (.named name) => (findNamed name (d.enclosing path)).any fun found =>
      !owner.isSuffixOf found.1
  | _ => false

/-- Whether an include inside of an entry leads out of it. -/
def leaks (d : Document) (owner : List Step) : Bool :=
  d.places.any fun path =>
    owner.isSuffixOf path && (d.patternsAt path).any (d.leadsOut owner path)

/-- Whether an entry in the patterns of a place may stand there: it includes no name of the
repository of another place from outside. -/
def admits (d : Document) (owner path : List Step) (e : Entry) : Bool :=
  match e.reference.map Target.ofText with
  | some (.named name) =>
    ((d.repositoryAt? owner).bind (Dictionary.find? name)).isNone || owner.isSuffixOf path
  | _ => true

/-- Whether a place is no capture with a repository. -/
def admitsRepository (d : Document) : List Step → Bool
  | .capture which key :: outer => (d.repositoryAt? (.capture which key :: outer)).isNone
  | _ => true

/-- Checks all places of a document for `Library.Scoped`. -/
def isScoped (d : Document) : Bool :=
  d.places.all fun owner =>
    d.admitsRepository owner && (!d.leaks owner ||
      d.places.all fun path => (d.patternsAt path).all (d.admits owner path))

variable {d : Document} {path : List Step}

theorem mem_places_of_repositoryAt? {entries : List (String × Entry)}
    (h : d.repositoryAt? path = some entries) : path ∈ d.places := by
  cases path with
  | nil => exact List.mem_cons_self
  | cons step outer =>
      obtain ⟨e, he, _⟩ := Option.bind_eq_some_iff.1 h
      exact List.mem_cons_of_mem _ (mem_paths he)

theorem mem_places_of_mem_patternsAt {e : Entry} (h : e ∈ d.patternsAt path) : path ∈ d.places := by
  cases path with
  | nil => exact List.mem_cons_self
  | cons step outer =>
      cases howner : d.entryAt? (step :: outer) with
      | none => simp [patternsAt, howner] at h
      | some owner => exact List.mem_cons_of_mem _ (mem_paths howner)

theorem Leaks.leaks {owner : List Step} (h : d.Leaks owner) : d.leaks owner = true := by
  obtain ⟨path, e, text, name, found, howner, he, hreference, htarget, hfound, hout⟩ := h
  refine List.any_eq_true.2 ⟨path, mem_places_of_mem_patternsAt he, ?_⟩
  rw [Bool.and_eq_true, List.isSuffixOf_iff_suffix]
  refine ⟨howner, List.any_eq_true.2 ⟨e, he, ?_⟩⟩
  have hout : owner.isSuffixOf found.1 = false := by
    rw [Bool.eq_false_iff, Ne, List.isSuffixOf_iff_suffix]
    exact hout
  simp [leadsOut, hreference, htarget, hfound, hout]

end Document

/-- A library is scoped if each of its documents passes the check. -/
theorem Library.scoped_of_isScoped (h : ∀ p ∈ lib.documents, p.2.isScoped = true) :
    lib.Scoped where
  names := by
    intro scope d hd owner entries name hrepository hname hleaks path e text he hreference htarget
    have hscoped := h (scope, d) (Dictionary.mem_of_find? hd)
    rw [Document.isScoped, List.all_eq_true] at hscoped
    have howner := hscoped owner (Document.mem_places_of_repositoryAt? hrepository)
    rw [hleaks.leaks, Bool.not_true, Bool.false_or, Bool.and_eq_true, List.all_eq_true] at howner
    have hpath := howner.2 path (Document.mem_places_of_mem_patternsAt he)
    have hadmits := List.all_eq_true.1 hpath e he
    simp only [Document.admits, hreference, Option.map_some, htarget, hrepository,
      Option.bind_some, Bool.or_eq_true, List.isSuffixOf_iff_suffix] at hadmits
    rcases hadmits with hnone | hsuffix
    · rw [Option.isNone_iff_eq_none.1 hnone] at hname
      cases hname
    · exact hsuffix
  captures := by
    intro scope d hd which key path
    have hscoped := h (scope, d) (Dictionary.mem_of_find? hd)
    rw [Document.isScoped, List.all_eq_true] at hscoped
    cases hrepository : d.repositoryAt? (.capture which key :: path) with
    | none => rfl
    | some entries =>
        have howner := hscoped _ (Document.mem_places_of_repositoryAt? hrepository)
        rw [Bool.and_eq_true, Document.admitsRepository, hrepository] at howner
        exact absurd howner.1 (by simp)

/-- Repositories that do not have a name may stand between the others. -/
theorem findNamed_of_sublist {name : String} {inner outer : List Repository}
    (hsublist : inner.Sublist outer) (hnodup : (outer.map Repository.owner).Nodup)
    (hname : ∀ r ∈ outer, (Dictionary.find? name r.entries).isSome → r ∈ inner) :
    findNamed name outer = findNamed name inner := by
  induction hsublist with
  | slnil => rfl
  | @cons inner outer r hsublist ih =>
      rw [List.map_cons, List.nodup_cons] at hnodup
      rw [findNamed]
      cases hfound : Dictionary.find? name r.entries with
      | none => exact ih hnodup.2 fun r' hr' => hname r' (List.mem_cons_of_mem _ hr')
      | some e =>
          -- Then it is one of the others, and there twice.
          have hinner := hname r List.mem_cons_self (by rw [hfound, Option.isSome_some])
          exact absurd (List.mem_map.2 ⟨r, hsublist.subset hinner, rfl⟩) hnodup.1
  | @cons_cons inner outer r hsublist ih =>
      rw [List.map_cons, List.nodup_cons] at hnodup
      rw [findNamed, findNamed]
      cases hfound : Dictionary.find? name r.entries with
      | some e => rfl
      | none =>
          refine ih hnodup.2 fun r' hr' hsome => ?_
          rcases List.mem_cons.1 (hname r' (List.mem_cons_of_mem _ hr') hsome) with rfl | hinner
          · rw [hfound] at hsome
            cases hsome
          · exact hinner

/-! ## The repositories around a part -/

namespace Part

variable {p q : Part}

/-- What is around a part itself. -/
def around : Part → Surroundings
  | root scope d => d.surroundings scope
  | entry _ _ around => around
  | contents _ _ _ around => around

/-- The repositories that enclose the patterns of a part are around them, and with each repository
around them all those that enclose it.  The others belong to entries that an include has led out
of. -/
structure Nested (lib : Library) (d : Document) (p : Part) : Prop where
  inner : p.inner.Of lib d
  encloses : (d.enclosing p.key.place.path).Sublist p.inner.repositories
  chain : ∀ r rest, (r :: rest) <:+ p.inner.repositories →
    (d.enclosing r.owner).Sublist (r :: rest)
  inside : ∀ r ∈ p.inner.repositories, d.Leaks r.owner ∨ r.owner <:+ p.key.place.path

/-- A grammar only has its own repository around it. -/
theorem nested_root {scope : String} {d : Document}
    (hd : Dictionary.find? scope lib.documents = some d) : (Part.root scope d).Nested lib d where
  inner := Document.surroundings_of hd
  encloses := List.Sublist.refl _
  chain := by
    intro r rest hsuffix
    rcases List.suffix_cons_iff.1 hsuffix with hsame | hnil
    · obtain ⟨rfl, rfl⟩ := List.cons.inj hsame
      exact List.Sublist.refl _
    · cases List.suffix_nil.1 hnil
  inside := by
    intro r hr
    obtain rfl := List.mem_singleton.1 hr
    exact Or.inr List.nil_suffix

/-- An entry is nested where the place that it is written in is. -/
theorem nested_entry {around : Surroundings} {d : Document} {step : Step} {outer : List Step}
    {e : Entry} (haround : around.Of lib d)
    (hencloses : (d.enclosing outer).Sublist around.repositories)
    (hchain : ∀ r rest, (r :: rest) <:+ around.repositories →
      (d.enclosing r.owner).Sublist (r :: rest))
    (hinside : ∀ r ∈ around.repositories, d.Leaks r.owner ∨ r.owner <:+ step :: outer)
    (he : d.entryAt? (step :: outer) = some e) :
    (Part.entry (step :: outer) e around).Nested lib d := by
  have hwritten : (Part.entry (step :: outer) e around).IsWritten lib := ⟨d, haround, he⟩
  obtain ⟨document, hinner⟩ := hwritten.inner
  have hdocument := hinner.document
  rw [inner_scope] at hdocument
  obtain rfl : d = document := Option.some.inj (haround.document.symm.trans hdocument)
  have hrepository := Document.repositoryAt?_eq he
  cases hown : e.repository with
  | none =>
      have hsame : d.enclosing (step :: outer) = d.enclosing outer := by
        rw [Document.enclosing, hrepository, hown]
      have haround : (Part.entry (step :: outer) e around).inner = around := by
        simp only [Part.inner, hown]
      refine ⟨hinner, ?_, ?_, ?_⟩
      · show (d.enclosing (step :: outer)).Sublist _
        rw [hsame, haround]
        exact hencloses
      · rw [haround]
        exact hchain
      · rw [haround]
        exact hinside
  | some entries =>
      have hmore : d.enclosing (step :: outer) = ⟨step :: outer, entries⟩ :: d.enclosing outer := by
        rw [Document.enclosing, hrepository, hown]
      have haround : (Part.entry (step :: outer) e around).inner.repositories =
          ⟨step :: outer, entries⟩ :: around.repositories := by
        simp only [Part.inner, hown]
      have hcons : (d.enclosing (step :: outer)).Sublist
          (⟨step :: outer, entries⟩ :: around.repositories) := by
        rw [hmore]
        exact hencloses.cons_cons _
      refine ⟨hinner, ?_, ?_, ?_⟩
      · rw [haround]
        exact hcons
      · -- Either all of the repositories are meant, or some of those that were there before.
        intro r rest hsuffix
        rw [haround] at hsuffix
        rcases List.suffix_cons_iff.1 hsuffix with hsame | hbefore
        · obtain ⟨rfl, rfl⟩ := List.cons.inj hsame
          exact hcons
        · exact hchain r rest hbefore
      · intro r hr
        rw [haround] at hr
        rcases List.mem_cons.1 hr with rfl | hr
        · exact Or.inr (List.suffix_refl _)
        · exact hinside r hr

/-- What a nested part leads to is nested, if the names of the part denote what they denote where
they are written: an include that leads out of an entry is then one that leaks. -/
theorem Leads.nested (hscoped : lib.Scoped) (h : Leads lib p q) (hp : p.IsWritten lib)
    (hq : q.IsWritten lib) {d : Document} (hnested : p.Nested lib d)
    (hfollows : p.Follows lib.enclosingNames) : ∃ d, q.Nested lib d := by
  have hd := hnested.inner.document
  cases h with
  | @grammar _ scope d hdocument => exact ⟨d, nested_root hdocument⟩
  | @entryOf _ scope name d e hdocument hfound =>
      have hroot := nested_root hdocument
      refine ⟨d, nested_entry hroot.inner hroot.encloses hroot.chain ?_ hfound⟩
      intro r hr
      obtain rfl := List.mem_singleton.1 hr
      exact Or.inr List.nil_suffix
  | pattern hwritten =>
      refine ⟨d, nested_entry hnested.inner ?_ hnested.chain ?_ (hq.entryAt? hd)⟩
      · rw [written_path]
        exact hnested.encloses
      · intro r hr
        rw [written_path]
        exact (hnested.inside r hr).imp_right fun hsuffix => hsuffix.trans (List.suffix_cons _ _)
  | @named _ i e found text name path hwritten hreference htarget hfound =>
      -- Behind the repository that has the name there are all those that enclose it.
      obtain ⟨owner, howner, rfl, hentry⟩ := mem_of_findNamed hfound
      obtain ⟨before, rest, hsplit⟩ := List.append_of_mem howner
      have hsuffix : (owner :: rest) <:+ p.inner.repositories := ⟨before, hsplit.symm⟩
      have hencloses := (hnested.chain owner rest hsuffix).trans hsuffix.sublist
      refine ⟨d, nested_entry hnested.inner hencloses hnested.chain ?_ (hq.entryAt? hd)⟩
      intro r hr
      rcases hnested.inside r hr with hleaks | hinside
      · exact Or.inl hleaks
      · by_cases hstays : r.owner <:+ .repository name :: owner.owner
        · exact Or.inr hstays
        · -- The include stands inside of `r.owner`, and what it names does not.
          have he := List.mem_of_getElem? (hp.getElem?_patternsAt hnested.inner hwritten)
          have hsame := hfollows i e text name hwritten hreference htarget
          rw [hfound, Library.enclosingNames, ← inner_scope, hd, Option.bind_some] at hsame
          exact Or.inl ⟨_, e, text, name, _, hinside, he, hreference, htarget, hsame.symm, hstays⟩
  | @capture path e capture around which map key hwritten =>
      have hsame : d.enclosing (.capture map key :: path) = d.enclosing path := by
        rw [Document.enclosing, hscoped.captures _ d hd]
      refine ⟨d, hnested.inner, ?_, hnested.chain, ?_⟩
      · show (d.enclosing (.capture map key :: path)).Sublist _
        rw [hsame]
        exact hnested.encloses
      · intro r hr
        exact (hnested.inside r hr).imp_right fun hsuffix => hsuffix.trans (List.suffix_cons _ _)

/-- The repositories around a part are different, and those of entries belong to entries that have
been visited. -/
structure SeenAround (unseen : List Key) (p : Part) : Prop where
  nodup : unseen.Nodup
  owners : (p.around.repositories.map Repository.owner).Nodup
  seen : ∀ r ∈ p.around.repositories, r.owner ≠ [] →
    Key.entry ⟨p.around.scope, r.owner⟩ ∉ unseen

theorem SeenAround.erase {unseen : List Key} (h : p.SeenAround unseen) (key : Key) :
    p.SeenAround (unseen.erase key) where
  nodup := h.nodup.erase key
  owners := h.owners
  seen := fun r hr hne hmem => h.seen r hr hne (List.mem_of_mem_erase hmem)

theorem seenAround_surroundings {unseen : List Key} (hnodup : unseen.Nodup) {d : Document}
    {scope : String} (hp : p.around = d.surroundings scope) : p.SeenAround unseen where
  nodup := hnodup
  owners := by simp [hp, Document.surroundings]
  seen := by
    intro r hr hne
    rw [hp] at hr
    obtain rfl := List.mem_singleton.1 hr
    exact absurd rfl hne

/-- When an entry is visited its own repository has not been around yet. -/
theorem SeenAround.inner {unseen : List Key} (h : p.SeenAround unseen) (hkey : p.key ∈ unseen)
    (hp : p.IsWritten lib) : (p.inner.repositories.map Repository.owner).Nodup ∧
      ∀ r ∈ p.inner.repositories, r.owner ≠ [] →
        Key.entry ⟨p.inner.scope, r.owner⟩ ∉ unseen.erase p.key := by
  have hbefore := (h.erase p.key).seen
  cases p with
  | root scope d => exact ⟨h.owners, hbefore⟩
  | contents which path e around => exact ⟨h.owners, hbefore⟩
  | entry path e around =>
      rw [Part.inner]
      cases hrepository : e.repository with
      | none => exact ⟨h.owners, hbefore⟩
      | some entries =>
          obtain ⟨d, _, he⟩ := hp
          have hne := Document.ne_nil_of_entryAt? he
          refine ⟨List.nodup_cons.2 ⟨?_, h.owners⟩, ?_⟩
          · -- The entry is unseen, unlike those whose repositories are around it.
            intro hmem
            obtain ⟨r, hr, hsame⟩ := List.mem_map.1 hmem
            have hsame : r.owner = path := hsame
            have hseen := h.seen r hr (hsame ▸ hne)
            rw [hsame] at hseen
            exact hseen hkey
          · intro r hr hrne
            rcases List.mem_cons.1 hr with rfl | hr
            · rw [h.nodup.mem_erase_iff]
              exact fun hmem => hmem.1 rfl
            · exact hbefore r hr hrne

theorem Leads.seenAround {unseen : List Key} (h : Leads lib p q) (hkey : p.key ∈ unseen)
    (hwritten : p.IsWritten lib) (hp : p.SeenAround unseen) :
    q.SeenAround (unseen.erase p.key) := by
  have hnodup := hp.nodup.erase p.key
  obtain ⟨howners, hseen⟩ := hp.inner hkey hwritten
  cases h with
  | grammar hdocument => exact seenAround_surroundings hnodup rfl
  | entryOf hdocument hfound => exact seenAround_surroundings hnodup rfl
  | pattern hwritten => exact ⟨hnodup, howners, hseen⟩
  | named _ _ _ hfound => exact ⟨hnodup, howners, hseen⟩
  | capture hwritten => exact ⟨hnodup, howners, hseen⟩

/-- Names of a nested part denote what they denote where they are written. -/
theorem Nested.follows (hscoped : lib.Scoped) (hwritten : p.IsWritten lib) {d : Document}
    (h : p.Nested lib d) (howners : (p.inner.repositories.map Repository.owner).Nodup) :
    p.Follows lib.enclosingNames := by
  have hdocument := h.inner.document
  rw [inner_scope] at hdocument
  intro i e text name he hreference htarget
  rw [Library.enclosingNames, hdocument, Option.bind_some]
  -- Only repositories that enclose the include may have the name.
  refine findNamed_of_sublist h.encloses howners fun r hr hname => ?_
  have hrepository := h.inner.repositories r hr
  refine Document.mem_enclosing ?_ hrepository
  rcases h.inside r hr with hleaks | hinside
  · have he := List.mem_of_getElem? (hwritten.getElem?_patternsAt h.inner he)
    exact hscoped.names _ d hdocument r.owner r.entries name hrepository hname hleaks _ e text he
      hreference htarget
  · exact hinside

/-- What is known of a part when it is visited. -/
structure Settled (lib : Library) (unseen : List Key) (p : Part) : Prop where
  written : p.IsWritten lib
  nested : ∃ d, p.Nested lib d
  seen : p.SeenAround unseen

theorem Settled.follows (hscoped : lib.Scoped) {unseen : List Key} (h : p.Settled lib unseen)
    (hkey : p.key ∈ unseen) : p.Follows lib.enclosingNames := by
  obtain ⟨d, hnested⟩ := h.nested
  exact hnested.follows hscoped h.written (h.seen.inner hkey h.written).1

theorem Leads.settled (hscoped : lib.Scoped) (hkeyed : lib.CapturesKeyed) (h : Leads lib p q)
    {unseen : List Key} (hkey : p.key ∈ unseen) (hp : p.Settled lib unseen) :
    q.Settled lib (unseen.erase p.key) := by
  have hwritten := h.isWritten hkeyed hp.written
  have hfollows := hp.follows hscoped hkey
  obtain ⟨d, hnested⟩ := hp.nested
  exact ⟨hwritten, h.nested hscoped hp.written hwritten hnested hfollows,
    h.seenAround hkey hp.written hp.seen⟩

end Part

namespace Grammar

variable {g : Grammar ρ} {parts : List Part}

/-- All names of a compiled grammar denote what they denote where they are written. -/
theorem CompiledFrom.follows_enclosingNames (hscoped : lib.Scoped) (hkeyed : lib.CapturesKeyed)
    (hkeys : lib.keys.Nodup) (h : g.CompiledFrom engine lib parts) :
    ∀ p ∈ parts, p.Follows lib.enclosingNames := by
  intro p hp
  obtain ⟨unseen, hkey, hsettled⟩ := h.induction_unseen
    (P := fun unseen p => p.Settled lib unseen)
    (fun d hd => ⟨hd, ⟨d, Part.nested_root hd⟩, Part.seenAround_surroundings hkeys rfl⟩)
    (fun unseen key p hp => ⟨hp.written, hp.nested, hp.seen.erase key⟩)
    (fun unseen p q hkey hp hq => (Part.leads_of_mem_tasks hq).settled hscoped hkeyed hkey hp) p hp
  exact hsettled.follows hscoped hkey

/-- If the names of an entry that an include leads out of are only included inside of it, then all
names denote what they denote where they are written, and what is tried in the base grammar and in
every region is what is read there with these names. -/
theorem compile_reads_enclosing (hscoped : lib.Scoped) (hkeyed : lib.CapturesKeyed)
    (hkeys : lib.keys.Nodup) (h : Grammar.compile engine lib = .ok (some g)) :
    ∃ parts, g.Reads engine lib lib.enclosingNames parts ∧
      ∀ p ∈ parts, p.Follows lib.enclosingNames := by
  obtain ⟨parts, hcompiled⟩ := Grammar.compile_eq_some h
  have hfollows := hcompiled.follows_enclosingNames hscoped hkeyed hkeys
  exact ⟨parts, hcompiled.reads hkeyed hfollows, hfollows⟩

end Grammar

/-! ## A name that two repositories have -/

namespace Sample

/-- A word with the name of its scope. -/
def word (source name : String) : Entry :=
  { Entry.blank with matchSource := some source, name := some name }

/-- A region with a repository of its own. -/
def angle (patterns : List Entry) : Entry :=
  { Entry.blank with
    beginSource := some "<"
    endSource := some ">"
    patterns := some patterns
    repository := some [("x", word "i" "inner")] }

/-- The name is included inside of the region, which no include leads out of, and outside. -/
def scopedLibrary : Library :=
  ⟨[("s", { Document.blank with
    patterns := [angle [including "#x"], including "#x"]
    repository := [("x", word "o" "outer")] })], "s"⟩

/-- The grammar that is read from it. -/
def scopedGrammar : Grammar (List Char) where
  scopeName := "s"
  rules :=
    let pattern := Pattern.ofSource .literal
    #[⟨none, none, .container [1, 3]⟩,
      ⟨none, none, .region (pattern "<") [] (pattern ">") [] false [2]⟩,
      ⟨some ⟨"inner"⟩, none, .single (pattern "i") []⟩,
      ⟨some ⟨"outer"⟩, none, .single (pattern "o") []⟩]
  root := 0
  entries := #[[1, 3], [2], [], []]

theorem scopedGrammar_compile :
    Grammar.compile .literal scopedLibrary = .ok (some scopedGrammar) := by
  cbv

theorem scopedLibrary_scoped : scopedLibrary.Scoped := by
  refine Library.scoped_of_isScoped fun p hp => ?_
  obtain rfl := List.mem_singleton.1 hp
  decide +kernel

theorem scopedLibrary_keys : scopedLibrary.keys.Nodup := by
  have hkeys : decide scopedLibrary.keys.Nodup = true := by
    cbv
  exact of_decide_eq_true hkeys

theorem scopedLibrary_capturesKeyed : scopedLibrary.CapturesKeyed :=
  Library.capturesKeyed_of_levels 3 (by decide)

/-- `#a` leads to the name from inside of the region, and from outside. -/
def leaking (patterns : List Entry) : Library :=
  ⟨[("s", { Document.blank with
    patterns := patterns
    repository := [("a", { Entry.blank with patterns := some [including "#x"] }),
      ("x", word "o" "outer")] })], "s"⟩

/-- The grammar that is read when the region stands first. -/
def innerGrammar : Grammar (List Char) where
  scopeName := "s"
  rules :=
    let pattern := Pattern.ofSource .literal
    #[⟨none, none, .container [1, 2]⟩,
      ⟨none, none, .region (pattern "<") [] (pattern ">") [] false [2]⟩,
      ⟨none, none, .container [3]⟩,
      ⟨some ⟨"inner"⟩, none, .single (pattern "i") []⟩]
  root := 0
  entries := #[[1, 3], [3], [3], []]

/-- The grammar that is read when the region stands last. -/
def outerGrammar : Grammar (List Char) where
  scopeName := "s"
  rules :=
    let pattern := Pattern.ofSource .literal
    #[⟨none, none, .container [1, 3]⟩,
      ⟨none, none, .container [2]⟩,
      ⟨some ⟨"outer"⟩, none, .single (pattern "o") []⟩,
      ⟨none, none, .region (pattern "<") [] (pattern ">") [] false [1]⟩]
  root := 0
  entries := #[[2, 3], [2], [], [2]]

end Sample

namespace Grammar

/-- A name that two repositories have denotes the inner entry inside of the region only. -/
theorem sample_reads_enclosing :
    Sample.scopedLibrary.Scoped ∧ Sample.scopedLibrary.CapturesKeyed ∧
    Sample.scopedLibrary.keys.Nodup ∧
    Grammar.compile .literal Sample.scopedLibrary = .ok (some Sample.scopedGrammar) ∧
    ∃ parts, Sample.scopedGrammar.Reads .literal Sample.scopedLibrary
        Sample.scopedLibrary.enclosingNames parts ∧
      ∀ p ∈ parts, p.Follows Sample.scopedLibrary.enclosingNames :=
  ⟨Sample.scopedLibrary_scoped, Sample.scopedLibrary_capturesKeyed, Sample.scopedLibrary_keys,
    Sample.scopedGrammar_compile,
    compile_reads_enclosing Sample.scopedLibrary_scoped Sample.scopedLibrary_capturesKeyed
      Sample.scopedLibrary_keys Sample.scopedGrammar_compile⟩

/-- Where `#a` is included from inside of a region first, the name that it includes denotes the
entry of the region, outside of it as well; where it is included from outside first, that of the
grammar.  The order of two patterns decides which of them is tried. -/
theorem order_decides_names :
    let region := Sample.angle [Sample.including "#a"]
    let outside := Sample.including "#a"
    [region, outside].Perm [outside, region] ∧
    ∃ g g' : Grammar (List Char),
      Grammar.compile .literal (Sample.leaking [region, outside]) = .ok (some g) ∧
      Grammar.compile .literal (Sample.leaking [outside, region]) = .ok (some g') ∧
      (g.entriesOf g.root).filterMap (fun id => (g.rule id).name) = [⟨"inner"⟩] ∧
      (g'.entriesOf g'.root).filterMap (fun id => (g'.rule id).name) = [⟨"outer"⟩] := by
  refine ⟨List.Perm.swap _ _ _, Sample.innerGrammar, Sample.outerGrammar, ?_, ?_, rfl, rfl⟩
  · cbv
  · cbv

end Grammar

end ScopeCheck
