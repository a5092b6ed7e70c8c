import ScopeCheck.Proofs.Grammar.Parallel
import ScopeCheck.Proofs.Grammar.Replacing

/-!
# Parts of libraries that differ in one place

Two libraries agree but for what is in one place and inside of it.  A part of the one has its
`Counterpart` in the other: it is known by the same key, and the repositories around it stand in the
same places.

* `Library.IdleAt`: the entry in the place contributes nothing, wherever it is followed;
* `Fits`: two parts that may be missing are counterparts, or none of them contributes anything;
* `enabled_fits`, `Library.DiffersAt.included_fits`: so it is with the parts that entries stand for;
* `Library.DiffersAt.patterns_aligned`: the patterns of counterparts are counterparts, but for the
  hollow ones.
-/

namespace ScopeCheck

variable {lib lib' : Library} {place : Place} {d d' : Document} {path : List Step} {e e' : Entry}

/-! ## What outlines decide -/

namespace Entry

/-- What an outline still says is the same of entries with the same outline. -/
theorem eq_of_outline {α : Type} (read : Entry → α) (hread : ∀ e : Entry, read e.outline = read e)
    (h : e.outline = e'.outline) : read e = read e' := by
  rw [← hread e, h, hread e']

theorem shape_eq (h : e.outline = e'.outline) : e.shape = e'.shape :=
  eq_of_outline shape (fun _ => rfl) h

theorem isSome_repository_eq (h : e.outline = e'.outline) :
    e.repository.isSome = e'.repository.isSome :=
  eq_of_outline (fun e => e.repository.isSome) (fun _ => Option.isSome_map) h

theorem isSome_patterns_eq (h : e.outline = e'.outline) :
    e.patterns.isSome = e'.patterns.isSome :=
  eq_of_outline (fun e => e.patterns.isSome) (fun _ => Option.isSome_map) h

theorem length_patterns_eq (h : e.outline = e'.outline) :
    (e.patterns.getD []).length = (e'.patterns.getD []).length := by
  refine eq_of_outline (fun e => (e.patterns.getD []).length) (fun e => ?_) h
  unfold outline
  cases e.patterns with
  | none => rfl
  | some list => exact List.length_map _

theorem isHollow_iff (h : e.outline = e'.outline) : e.IsHollow ↔ e'.IsHollow := by
  have hlength := length_patterns_eq h
  constructor
  · rintro ⟨hcontainer, hpatterns⟩
    rw [hpatterns] at hlength
    exact ⟨(shape_eq h).symm.trans hcontainer, List.length_eq_zero_iff.1 hlength.symm⟩
  · rintro ⟨hcontainer, hpatterns⟩
    rw [hpatterns] at hlength
    exact ⟨(shape_eq h).trans hcontainer, List.length_eq_zero_iff.1 hlength⟩

theorem find?_keysOf (name : String) (pairs : List (String × Entry)) :
    (Dictionary.find? name (keysOf pairs)).isSome = (Dictionary.find? name pairs).isSome := by
  induction pairs with
  | nil => rfl
  | cons p rest ih =>
      obtain ⟨k, v⟩ := p
      rw [keysOf, List.map_cons, Dictionary.find?, Dictionary.find?]
      split
      · rfl
      · exact ih

theorem isSome_find?_eq (name : String) {entries entries' : List (String × Entry)}
    (h : keysOf entries = keysOf entries') :
    (Dictionary.find? name entries).isSome = (Dictionary.find? name entries').isSome := by
  rw [← find?_keysOf, h, find?_keysOf]

end Entry

namespace Document

/-- Two documents have the same outline at the end of some steps. -/
def SameAt (d d' : Document) (path : List Step) : Prop :=
  (d.nodeAt? path).map Entry.outline = (d'.nodeAt? path).map Entry.outline

theorem SameAt.outline_eq (h : SameAt d d' path) (he : d.entryAt? path = some e)
    (he' : d'.entryAt? path = some e') : e.outline = e'.outline := by
  have hne := ne_nil_of_entryAt? he
  rw [SameAt, nodeAt?_eq_entryAt? hne, nodeAt?_eq_entryAt? hne, he, he'] at h
  exact Option.some.inj h

theorem repositoryAt?_eq_bind (d : Document) (path : List Step) :
    d.repositoryAt? path = (d.nodeAt? path).bind Entry.repository := by
  cases path <;> rfl

theorem SameAt.keysOf_eq (h : SameAt d d' path) {entries entries' : List (String × Entry)}
    (hentries : d.repositoryAt? path = some entries)
    (hentries' : d'.repositoryAt? path = some entries') : keysOf entries = keysOf entries' := by
  obtain ⟨owner, howner, hown⟩ := Option.bind_eq_some_iff.1
    ((d.repositoryAt?_eq_bind path).symm.trans hentries)
  obtain ⟨owner', howner', hown'⟩ := Option.bind_eq_some_iff.1
    ((d'.repositoryAt?_eq_bind path).symm.trans hentries')
  rw [SameAt, howner, howner'] at h
  have hrepository : owner.repository.map keysOf = owner'.repository.map keysOf :=
    congrArg Entry.repository (Option.some.inj h)
  rw [hown, hown'] at hrepository
  exact Option.some.inj hrepository

/-- A name is in both repositories or in none of them. -/
theorem SameAt.find?_together (h : SameAt d d' path) {entries entries' : List (String × Entry)}
    (hentries : d.repositoryAt? path = some entries)
    (hentries' : d'.repositoryAt? path = some entries') (name : String) :
    Option.Rel (fun e e' => d.entryAt? (.repository name :: path) = some e ∧
        d'.entryAt? (.repository name :: path) = some e')
      (Dictionary.find? name entries) (Dictionary.find? name entries') := by
  have hisSome := Entry.isSome_find?_eq name (h.keysOf_eq hentries hentries')
  cases hfind : Dictionary.find? name entries with
  | none =>
      cases hfind' : Dictionary.find? name entries' with
      | none => exact .none
      | some e' =>
          rw [hfind, hfind'] at hisSome
          cases hisSome
  | some e =>
      cases hfind' : Dictionary.find? name entries' with
      | none =>
          rw [hfind, hfind'] at hisSome
          cases hisSome
      | some e' =>
          exact .some ⟨entryAt?_repository hentries hfind, entryAt?_repository hentries' hfind'⟩

end Document

/-! ## Names in repositories -/

/-- A place of a rule: in a list of patterns or in a repository. -/
def Place.IsRulePlace (place : Place) : Prop :=
  (∃ i outer, place.path = .pattern i :: outer) ∨
    ∃ name outer, place.path = .repository name :: outer

/-- Two documents of one scope have the same outlines, but in a place and inside of it. -/
def Document.SameBut (place : Place) (scope : String) (d d' : Document) : Prop :=
  ∀ path, ¬ place.Covers ⟨scope, path⟩ → Document.SameAt d d' path

/-- A name is found in repositories that stand in the same places. -/
theorem findNamed_together (name : String) {scope : String}
    (hsame : Document.SameBut place scope d d')
    {rs rs' : List Repository} (hrs : ∀ r ∈ rs, d.repositoryAt? r.owner = some r.entries)
    (hrs' : ∀ r ∈ rs', d'.repositoryAt? r.owner = some r.entries)
    (howners : rs.map Repository.owner = rs'.map Repository.owner)
    (houtside : ∀ owner ∈ rs.map Repository.owner, ¬ place.Covers ⟨scope, owner⟩) :
    Option.Rel (fun x x' => x.1 = x'.1 ∧ d.entryAt? x.1 = some x.2 ∧ d'.entryAt? x'.1 = some x'.2 ∧
      ∃ owner ∈ rs.map Repository.owner, x.1 = .repository name :: owner)
      (findNamed name rs) (findNamed name rs') := by
  induction rs generalizing rs' with
  | nil =>
      cases rs' with
      | nil => exact .none
      | cons r' rest' => cases howners
  | cons r rest ih =>
      cases rs' with
      | nil => cases howners
      | cons r' rest' =>
          obtain ⟨howner, hrest⟩ := List.cons.inj howners
          have hentries := hrs r List.mem_cons_self
          have hentries' : d'.repositoryAt? r.owner = some r'.entries :=
            howner ▸ hrs' r' List.mem_cons_self
          have hfound := (hsame r.owner (houtside _ List.mem_cons_self)).find?_together hentries
            hentries' name
          rw [findNamed, findNamed]
          generalize Dictionary.find? name r.entries = x at hfound ⊢
          generalize Dictionary.find? name r'.entries = y at hfound ⊢
          cases hfound with
          | some hentry =>
              refine .some ⟨?_, hentry.1, howner ▸ hentry.2, r.owner, List.mem_cons_self, rfl⟩
              rw [howner]
          | none =>
              have hrec := ih (fun r hr => hrs r (List.mem_cons_of_mem _ hr))
                (fun r hr => hrs' r (List.mem_cons_of_mem _ hr)) hrest
                (fun owner howner => houtside owner (List.mem_cons_of_mem _ howner))
              dsimp only
              generalize findNamed name rest = x at hrec ⊢
              generalize findNamed name rest' = y at hrec ⊢
              cases hrec with
              | none => exact .none
              | some h =>
                  obtain ⟨hpath, he, he', owner, howner, hown⟩ := h
                  exact .some ⟨hpath, he, he', owner, List.mem_cons_of_mem _ howner, hown⟩

/-! ## Counterparts -/

/-- The entry in a place contributes nothing, wherever it is followed: it stands for no part, or for
one that is hollow. -/
structure Library.IdleAt (lib : Library) (place : Place) : Prop where
  /-- This is so in a list of patterns, -/
  listed : ∀ p i e, lib.Reaches p → place = ⟨p.key.place.scope, .pattern i :: p.key.place.path⟩ →
    lib.entryAt? place = some e → ∀ q, lib.standsFor p.inner place.path e = some q → q.IsHollow
  /-- and under a name. -/
  named : ∀ name outer e, place.path = .repository name :: outer → lib.entryAt? place = some e →
    e.isOff ∨ e.IsHollow

/-- The places of the repositories around what is in a part. -/
def Part.owners (p : Part) : List (List Step) := p.inner.repositories.map Repository.owner

theorem Part.owners_entry (path : List Step) (e : Entry) (around : Surroundings) :
    (Part.entry path e around).owners =
      if e.repository.isSome then path :: around.repositories.map Repository.owner
      else around.repositories.map Repository.owner := by
  rw [Part.owners, Part.inner]
  cases e.repository <;> rfl

/-- The entry of a part; that of a grammar has its patterns and its repository. -/
def Part.node : Part → Entry
  | .root _ d => d.asEntry
  | .entry _ e _ => e
  | .contents _ _ e _ => e

theorem Part.IsWritten.nodeAt? {p : Part} (h : p.IsWritten lib) (hd : p.inner.Of lib d) :
    d.nodeAt? p.key.place.path = some p.node := by
  have hdocument := hd.document
  rw [Part.inner_scope] at hdocument
  have hentry : ∀ {path e around}, (Part.entry path e around).IsWritten lib →
      Dictionary.find? around.scope lib.documents = some d → d.nodeAt? path = some e := by
    intro path e around hwritten hdocument
    have he := hwritten.entryAt? hdocument
    rw [Document.nodeAt?_eq_entryAt? (Document.ne_nil_of_entryAt? he), he]
  cases p with
  | root scope own =>
      obtain rfl : own = d := Option.some.inj (h.symm.trans hdocument)
      rfl
  | entry path e around => exact hentry h hdocument
  | contents which path e around => exact hentry h hdocument

/-- Two parts of one kind, in the same place. -/
inductive Part.Alongside : Part → Part → Prop
  | root (scope : String) (d d' : Document) : Alongside (.root scope d) (.root scope d')
  | entry (path : List Step) (e e' : Entry) (around around' : Surroundings) :
      Alongside (.entry path e around) (.entry path e' around')
  | contents (which : CaptureMap) (path : List Step) (e e' : Entry)
      (around around' : Surroundings) :
      Alongside (.contents which path e around) (.contents which path e' around')

theorem Part.alongside_of_key {p p' : Part} (h : p.key = p'.key) : p.Alongside p' := by
  cases p with
  | root scope d =>
      cases p' with
      | root scope' d' =>
          obtain rfl := Key.root.inj h
          exact .root scope d d'
      | entry path' e' around' => cases h
      | contents which' path' e' around' => cases h
  | entry path e around =>
      cases p' with
      | root scope' d' => cases h
      | entry path' e' around' =>
          obtain rfl := (Place.mk.inj (Key.entry.inj h)).2
          exact .entry path e e' around around'
      | contents which' path' e' around' => cases h
  | contents which path e around =>
      cases p' with
      | root scope' d' => cases h
      | entry path' e' around' => cases h
      | contents which' path' e' around' =>
          obtain ⟨rfl, hplace⟩ := Key.contents.inj h
          obtain rfl := (Place.mk.inj hplace).2
          exact .contents which path e e' around around'

/-- A part and what stands for it in a library that agrees but for one place. -/
structure Counterpart (place : Place) (lib lib' : Library) (p p' : Part) : Prop where
  reached : lib.Reaches p
  reached' : lib'.Reaches p'
  solid : ¬ p.IsHollow
  solid' : ¬ p'.IsHollow
  key : p.key = p'.key
  owners : p.owners = p'.owners
  outside : ∀ path ∈ p.key.place.path :: p.owners, ¬ place.Covers ⟨p.key.place.scope, path⟩

/-- Two parts that may be missing are counterparts, or none of them contributes anything. -/
inductive Fits (place : Place) (lib lib' : Library) : Option Part → Option Part → Prop
  | both {q q' : Part} (h : Counterpart place lib lib' q q') :
      Fits place lib lib' (some q) (some q')
  | idle {x y : Option Part} (left : ∀ q, x = some q → lib.Spares q)
      (right : ∀ q', y = some q' → lib'.Spares q') : Fits place lib lib' x y

theorem Fits.none : Fits place lib lib' none none :=
  .idle (fun _ hq => by cases hq) fun _ hq => by cases hq

/-- Lists of parts that fit one by one. -/
theorem partsAligned_of_fits {xs ys : List (Option Part)}
    (h : List.Forall₂ (Fits place lib lib') xs ys) :
    PartsAligned lib lib' (Counterpart place lib lib') (xs.filterMap id) (ys.filterMap id) := by
  induction h with
  | nil => exact .nil
  | @cons x y xs ys hxy _ ih =>
      cases hxy with
      | both h => exact .both h ih
      | idle hleft hright =>
          have hright' : PartsAligned lib lib' (Counterpart place lib lib') (xs.filterMap id)
              ((y :: ys).filterMap id) := by
            cases y with
            | none => exact ih
            | some q' => exact .right (hright q' rfl) ih
          cases x with
          | none => exact hright'
          | some q => exact .left (hleft q rfl) hright'

/-- An entry that is outside of the place, in both libraries. -/
theorem enabled_fits {path : List Step} {e e' : Entry} {around around' : Surroundings}
    (hscope : around.scope = around'.scope)
    (howners : around.repositories.map Repository.owner =
      around'.repositories.map Repository.owner)
    (houtside : ∀ owner ∈ path :: around.repositories.map Repository.owner,
      ¬ place.Covers ⟨around.scope, owner⟩)
    (hsame : e.outline = e'.outline)
    (hreached : ∀ q, Library.enabled path e around = some q → lib.Reaches q)
    (hreached' : ∀ q, Library.enabled path e' around' = some q → lib'.Reaches q) :
    Fits place lib lib' (Library.enabled path e around) (Library.enabled path e' around') := by
  unfold Library.enabled at hreached hreached' ⊢
  rw [← Entry.eq_of_outline Entry.isOff (fun _ => rfl) hsame] at hreached' ⊢
  split
  · exact .none
  · rename_i hon
    have hp := hreached _ (if_neg hon)
    have hp' := hreached' _ (if_neg hon)
    have hsolid : ∀ {e e' : Entry} {around : Surroundings}, e.outline = e'.outline →
        (Part.entry path e around).IsHollow → e'.IsHollow := by
      rintro e e' around hsame ⟨_, _, _, hq, hhollow⟩
      cases hq
      exact (Entry.isHollow_iff hsame).1 hhollow
    by_cases hhollow : e'.IsHollow
    · refine .idle (fun q hq => ?_) fun q' hq' => ?_
      · obtain rfl := Option.some.inj hq
        exact ⟨hp, path, e, around, rfl, (Entry.isHollow_iff hsame).2 hhollow⟩
      · obtain rfl := Option.some.inj hq'
        exact ⟨hp', path, e', around', rfl, hhollow⟩
    · refine .both ⟨hp, hp', fun hq => hhollow (hsolid hsame hq), fun hq => hhollow (hsolid rfl hq),
        by rw [Part.key, Part.key, hscope], ?_, fun owner howner => ?_⟩
      · rw [Part.owners_entry, Part.owners_entry, howners, Entry.isSome_repository_eq hsame]
      · refine houtside owner ?_
        rw [Part.owners_entry] at howner
        split at howner
        · rcases List.mem_cons.1 howner with rfl | howner
          · exact List.mem_cons_self
          · exact howner
        · exact howner

/-- An entry that is found under a name in the place contributes nothing. -/
theorem Library.IdleAt.spares (hidle : lib.IdleAt place) {name : String} {outer path : List Step}
    {around : Surroundings} (hplace : place.path = .repository name :: outer)
    (he : lib.entryAt? place = some e)
    (hreached : ∀ q, Library.enabled path e around = some q → lib.Reaches q) :
    ∀ q, Library.enabled path e around = some q → lib.Spares q := by
  intro q hq
  have hentry := Part.eq_of_enabled hq
  refine ⟨hreached q hq, path, e, around, hentry, ?_⟩
  rcases hidle.named name outer e hplace he with hoff | hhollow
  · rw [Library.enabled, if_pos hoff] at hq
    cases hq
  · exact hhollow

/-- What two libraries rely on that agree but for one place. -/
structure Library.DiffersAt (place : Place) (lib lib' : Library) : Prop where
  agrees : Library.AgreesBut place lib lib'
  rulePlace : place.IsRulePlace
  keyed : lib.Keyed
  keyed' : lib'.Keyed
  idle : lib.IdleAt place
  idle' : lib'.IdleAt place

theorem Place.IsRulePlace.ne_nil (h : place.IsRulePlace) : place.path ≠ [] := by
  rcases h with ⟨i, outer, hpath⟩ | ⟨name, outer, hpath⟩ <;> simp [hpath]

namespace Library.DiffersAt

variable (h : Library.DiffersAt place lib lib')

include h

/-- The document itself is not inside of the place. -/
theorem not_covers_nil (scope : String) : ¬ place.Covers ⟨scope, []⟩ := by
  rintro ⟨-, hsuffix⟩
  exact h.rulePlace.ne_nil (List.suffix_nil.1 hsuffix)

/-- What is one step inside of an entry that is outside is outside as well, or it is in the
place. -/
theorem eq_of_covers {scope : String} {step : Step} {path : List Step}
    (houtside : ¬ place.Covers ⟨scope, path⟩) (hcovers : place.Covers ⟨scope, step :: path⟩) :
    place = ⟨scope, step :: path⟩ := by
  obtain ⟨hscope, hsuffix⟩ := hcovers
  obtain ⟨own, steps⟩ := place
  obtain rfl : own = scope := hscope
  rcases List.suffix_cons_iff.1 hsuffix with hsame | hinside
  · rw [Place.mk.injEq]
    exact ⟨rfl, hsame⟩
  · exact absurd ⟨rfl, hinside⟩ houtside

/-- Both libraries have a grammar, or none has it. -/
theorem documents (scope : String) : Option.Rel (Document.SameBut place scope)
    (Dictionary.find? scope lib.documents) (Dictionary.find? scope lib'.documents) :=
  h.agrees.documents scope

theorem root_fits (scope : String) (hreached : ∀ q, lib.root scope = some q → lib.Reaches q)
    (hreached' : ∀ q, lib'.root scope = some q → lib'.Reaches q) :
    Fits place lib lib' (lib.root scope) (lib'.root scope) := by
  have hdocuments := h.documents scope
  unfold Library.root at hreached hreached' ⊢
  generalize Dictionary.find? scope lib.documents = x at hdocuments hreached ⊢
  generalize Dictionary.find? scope lib'.documents = y at hdocuments hreached' ⊢
  cases hdocuments with
  | none => exact .none
  | @some d d' hsame =>
      refine .both ⟨hreached _ rfl, hreached' _ rfl, ?_, ?_, rfl, rfl, ?_⟩
      · rintro ⟨_, _, _, hq, _⟩
        cases hq
      · rintro ⟨_, _, _, hq, _⟩
        cases hq
      · intro path hpath
        have hnil : path = [] := by simpa [Part.key, Key.place, Part.owners, Part.inner,
          Document.surroundings] using hpath
        subst hnil
        exact h.not_covers_nil scope

/-- What is around the entries inside of counterparts. -/
theorem inner_documents {p p' : Part} (hp : Counterpart place lib lib' p p') :
    p.inner.scope = p'.inner.scope ∧ ∃ d d', p.inner.Of lib d ∧ p'.inner.Of lib' d' ∧
      Document.SameBut place p.inner.scope d d' := by
  have hscope : p.inner.scope = p'.inner.scope := by
    rw [Part.inner_scope, Part.inner_scope, hp.key]
  refine ⟨hscope, ?_⟩
  obtain ⟨d, hd⟩ := (hp.reached.written h.keyed.capturesKeyed).inner
  obtain ⟨d', hd'⟩ := (hp.reached'.written h.keyed'.capturesKeyed).inner
  have hdocuments := h.documents p.inner.scope
  rw [hd.document, hscope, hd'.document] at hdocuments
  cases hdocuments with
  | some hsame => exact ⟨d, d', hd, hd', hscope ▸ hsame⟩

/-- An entry that is found under a name, in both libraries. -/
theorem named_fits {scope name : String} {owner : List Step}
    (hscope : Document.SameBut place scope d d')
    (hd : Dictionary.find? scope lib.documents = some d)
    (hd' : Dictionary.find? scope lib'.documents = some d')
    {around around' : Surroundings} (haround : around.scope = scope)
    (haround' : around'.scope = scope)
    (howners : around.repositories.map Repository.owner =
      around'.repositories.map Repository.owner)
    (houtside : ∀ owner ∈ around.repositories.map Repository.owner, ¬ place.Covers ⟨scope, owner⟩)
    (howner : owner ∈ around.repositories.map Repository.owner)
    (he : d.entryAt? (.repository name :: owner) = some e)
    (he' : d'.entryAt? (.repository name :: owner) = some e')
    (hreached : ∀ q, Library.enabled (.repository name :: owner) e around = some q → lib.Reaches q)
    (hreached' : ∀ q, Library.enabled (.repository name :: owner) e' around' = some q →
      lib'.Reaches q) :
    Fits place lib lib' (Library.enabled (.repository name :: owner) e around)
      (Library.enabled (.repository name :: owner) e' around') := by
  subst haround
  by_cases hcovers : place.Covers ⟨around.scope, .repository name :: owner⟩
  · have hplace := h.eq_of_covers (houtside owner howner) hcovers
    subst hplace
    have hentry : lib.entryAt? ⟨around.scope, .repository name :: owner⟩ = some e := by
      rw [Library.entryAt?, hd, Option.bind_some, he]
    have hentry' : lib'.entryAt? ⟨around.scope, .repository name :: owner⟩ = some e' := by
      rw [Library.entryAt?, hd', Option.bind_some, he']
    exact .idle (h.idle.spares rfl hentry hreached) (h.idle'.spares rfl hentry' hreached')
  · refine enabled_fits haround'.symm howners (fun path hpath => ?_)
      ((hscope _ hcovers).outline_eq he he') hreached hreached'
    rcases List.mem_cons.1 hpath with rfl | hpath
    · exact hcovers
    · exact houtside path hpath

/-- The parts that an include names. -/
theorem included_fits {p p' : Part} (hp : Counterpart place lib lib' p p') (target : Target)
    (hreached : ∀ q, lib.included p.inner target = some q → lib.Reaches q)
    (hreached' : ∀ q, lib'.included p'.inner target = some q → lib'.Reaches q) :
    Fits place lib lib' (lib.included p.inner target) (lib'.included p'.inner target) := by
  obtain ⟨hscope, d, d', hd, hd', hsame⟩ := h.inner_documents hp
  cases target with
  | self =>
      have hself : lib'.included p'.inner .self = lib'.root p.inner.scope := by
        rw [Library.included, hscope]
      rw [hself] at hreached' ⊢
      exact h.root_fits p.inner.scope hreached hreached'
  | base =>
      have hbase : lib'.included p'.inner .base = lib'.root lib.base := by
        rw [Library.included, h.agrees.base]
      rw [hbase] at hreached' ⊢
      exact h.root_fits lib.base hreached hreached'
  | grammar scope => exact h.root_fits scope hreached hreached'
  | named name =>
      have houtside : ∀ owner ∈ p.owners, ¬ place.Covers ⟨p.inner.scope, owner⟩ := by
        intro owner howner
        rw [Part.inner_scope]
        exact hp.outside owner (List.mem_cons_of_mem _ howner)
      have hfound := findNamed_together name hsame hd.repositories hd'.repositories
        hp.owners houtside
      simp only [Library.included] at hreached hreached' ⊢
      generalize findNamed name p.inner.repositories = x at hfound hreached ⊢
      generalize findNamed name p'.inner.repositories = y at hfound hreached' ⊢
      cases hfound with
      | none => exact .none
      | @some x y hxy =>
          obtain ⟨path, e⟩ := x
          obtain ⟨path', e'⟩ := y
          obtain ⟨hpath, he, he', owner, howner, hown⟩ := hxy
          dsimp only at hpath hown he he'
          subst hpath
          subst hown
          exact h.named_fits hsame hd.document (hscope ▸ hd'.document) rfl hscope.symm hp.owners
            houtside howner he he' hreached hreached'
  | entryOf scope name =>
      have hdocuments := h.documents scope
      simp only [Library.included] at hreached hreached' ⊢
      generalize hfind : Dictionary.find? scope lib.documents = x at hdocuments hreached ⊢
      generalize hfind' : Dictionary.find? scope lib'.documents = y at hdocuments hreached' ⊢
      cases hdocuments with
      | none => exact .none
      | @some d d' hsame =>
          have hroot : Document.SameAt d d' [] := hsame [] (h.not_covers_nil scope)
          have hfound := hroot.find?_together rfl rfl name
          dsimp only [Option.bind_some] at hreached hreached' ⊢
          generalize Dictionary.find? name d.repository = x at hfound hreached ⊢
          generalize Dictionary.find? name d'.repository = y at hfound hreached' ⊢
          cases hfound with
          | none => exact .none
          | some hentry =>
              refine h.named_fits hsame hfind hfind' rfl rfl rfl (fun owner howner => ?_)
                (List.mem_singleton.2 rfl) hentry.1 hentry.2 hreached hreached'
              obtain rfl := List.mem_singleton.1 howner
              exact h.not_covers_nil scope

section Counterparts

variable {p p' : Part} (hp : Counterpart place lib lib' p p')

include hp

/-- Counterparts differ in what is inside of them only. -/
theorem outline_eq : p.node.outline = p'.node.outline := by
  obtain ⟨_, d, d', hd, hd', hsame⟩ := h.inner_documents hp
  have hnode := (hp.reached.written h.keyed.capturesKeyed).nodeAt? hd
  have hnode' := (hp.reached'.written h.keyed'.capturesKeyed).nodeAt? hd'
  rw [← hp.key] at hnode'
  have hown : ¬ place.Covers ⟨p.inner.scope, p.key.place.path⟩ := by
    rw [Part.inner_scope]
    exact hp.outside _ List.mem_cons_self
  have hoverall := hsame _ hown
  rw [Document.SameAt, hnode, hnode'] at hoverall
  exact Option.some.inj hoverall

theorem length_written_eq : p.written.2.length = p'.written.2.length := by
  have houtline := h.outline_eq hp
  have hlength := Entry.length_patterns_eq houtline
  cases Part.alongside_of_key hp.key with
  | root scope d d' => exact hlength
  | contents which path e e' around around' => exact hlength
  | entry path e e' around around' =>
      have hshape : e.shape = e'.shape := Entry.shape_eq houtline
      simp only [Part.written, ← hshape]
      cases e.shape with
      | single source => rfl
      | region first last => exact hlength
      | during first condition => exact hlength
      | container => exact hlength

/-- The parts that the entries of a list of patterns stand for. -/
theorem standsFor_fits {i : Nat} {e e' : Entry} (he : p.written.2[i]? = some e)
    (he' : p'.written.2[i]? = some e') :
    Fits place lib lib' (lib.standsFor p.inner (.pattern i :: p.written.1) e)
      (lib'.standsFor p'.inner (.pattern i :: p'.written.1) e') := by
  obtain ⟨hscope, d, d', hd, hd', hsame⟩ := h.inner_documents hp
  have hreached : ∀ q, lib.standsFor p.inner (.pattern i :: p.written.1) e = some q →
      lib.Reaches q := fun q hq =>
    .step hp.reached (Part.visit_mem_tasks (Part.mem_patterns.2 ⟨i, e, he, hq⟩))
  have hreached' : ∀ q, lib'.standsFor p'.inner (.pattern i :: p'.written.1) e' = some q →
      lib'.Reaches q := fun q hq =>
    .step hp.reached' (Part.visit_mem_tasks (Part.mem_patterns.2 ⟨i, e', he', hq⟩))
  have hpath : p.written.1 = p'.written.1 := by
    rw [Part.written_path, Part.written_path, hp.key]
  have hown : ∀ owner ∈ p.written.1 :: p.owners, ¬ place.Covers ⟨p.inner.scope, owner⟩ := by
    rw [Part.inner_scope, Part.written_path]
    exact hp.outside
  have hentry : d.entryAt? (.pattern i :: p.written.1) = some e := by
    rw [Part.written_path]
    exact Document.entryAt?_pattern
      ((hp.reached.written h.keyed.capturesKeyed).getElem?_patternsAt hd he)
  have hentry' : d'.entryAt? (.pattern i :: p'.written.1) = some e' := by
    rw [Part.written_path]
    exact Document.entryAt?_pattern
      ((hp.reached'.written h.keyed'.capturesKeyed).getElem?_patternsAt hd' he')
  by_cases hcovers : place.Covers ⟨p.inner.scope, .pattern i :: p.written.1⟩
  · have hplace := h.eq_of_covers (hown _ List.mem_cons_self) hcovers
    have hplace' : place = ⟨p'.inner.scope, .pattern i :: p'.written.1⟩ := by
      rw [hplace, hscope, hpath]
    have hidle : ∀ q, lib.standsFor p.inner (.pattern i :: p.written.1) e = some q →
        q.IsHollow := by
      have hlisted := h.idle.listed p i e hp.reached
      rw [← Part.inner_scope, ← Part.written_path, hplace, Library.entryAt?, hd.document] at hlisted
      exact hlisted rfl hentry
    have hidle' : ∀ q, lib'.standsFor p'.inner (.pattern i :: p'.written.1) e' = some q →
        q.IsHollow := by
      have hlisted := h.idle'.listed p' i e' hp.reached'
      rw [← Part.inner_scope, ← Part.written_path, hplace', Library.entryAt?,
        hd'.document] at hlisted
      exact hlisted rfl hentry'
    exact .idle (fun q hq => ⟨hreached q hq, hidle q hq⟩) fun q hq => ⟨hreached' q hq, hidle' q hq⟩
  · rw [← hpath] at hentry'
    have houtline := (hsame _ hcovers).outline_eq hentry hentry'
    have hreference := Entry.eq_of_outline Entry.reference (fun _ => rfl) houtline
    simp only [Library.standsFor, ← hreference, ← hpath] at hreached hreached' ⊢
    cases htext : e.reference with
    | some text =>
        simp only [htext] at hreached hreached' ⊢
        exact h.included_fits hp (Target.ofText text) hreached hreached'
    | none =>
        simp only [htext] at hreached hreached' ⊢
        refine enabled_fits hscope hp.owners (fun path hmem => ?_) houtline hreached hreached'
        rcases List.mem_cons.1 hmem with rfl | hmem
        · exact hcovers
        · exact hown path (List.mem_cons_of_mem _ hmem)

/-- The patterns of counterparts are counterparts, but for hollow ones. -/
theorem patterns_aligned : PartsAligned lib lib' (Counterpart place lib lib') (p.patterns lib)
    (p'.patterns lib') := by
  refine partsAligned_of_fits (List.forall₂_iff_get.2 ⟨?_, fun i hlt hlt' => ?_⟩)
  · rw [List.length_mapIdx, List.length_mapIdx]
    exact h.length_written_eq hp
  · rw [List.length_mapIdx] at hlt hlt'
    simp only [List.get_eq_getElem, List.getElem_mapIdx]
    exact h.standsFor_fits hp (List.getElem?_eq_getElem hlt) (List.getElem?_eq_getElem hlt')

end Counterparts

end Library.DiffersAt

end ScopeCheck
