import ScopeCheck.Proofs.Grammar.Keyed

/-!
# Another entry in a place

`Library.put` writes an entry into a place of a library.  What stands elsewhere stays as it is:

* `Document.nodeAt?`: the entry at the end of some steps, and the document where there are none;
* `Entry.outline`: an entry without the entries inside of it;
* `Library.AgreesBut`: two libraries have the same outlines at all places that are not inside of one
  place;
* `Library.agreesBut_put`, `Library.entryAt?_put`: so have a library and the one with another entry
  in this place;
* `Library.Keyed.put`: the maps still have a key once.
-/

namespace ScopeCheck

variable {lib lib' lib'' : Library} {place : Place} {d : Document} {path : List Step} {step : Step}
  {e child : Entry}

/-! ## Maps and lists with another entry -/

/-- Puts a value in the place of those of a key. -/
def Dictionary.replace {α : Type} (key : String) (value : α) (pairs : List (String × α)) :
    List (String × α) :=
  pairs.map fun p => if p.1 = key then (p.1, value) else p

namespace Dictionary

variable {α : Type} {key : String} {value : α}

theorem keys_replace (key : String) (value : α) (pairs : List (String × α)) :
    (replace key value pairs).map Prod.fst = pairs.map Prod.fst := by
  rw [replace, List.map_map]
  refine List.map_congr_left fun p _ => ?_
  show (if p.1 = key then (p.1, value) else p).1 = p.1
  split <;> rfl

theorem find?_replace (name : String) (pairs : List (String × α)) :
    find? name (replace key value pairs) =
      (find? name pairs).map fun old => if name = key then value else old := by
  induction pairs with
  | nil => rfl
  | cons p rest ih =>
      obtain ⟨k, v⟩ := p
      have ih : find? name (rest.map fun p => if p.1 = key then (p.1, value) else p) = _ := ih
      rw [replace, List.map_cons]
      by_cases hname : k = name
      · subst hname
        by_cases hkey : k = key
        · simp [find?, hkey]
        · simp [find?, hkey]
      · by_cases hkey : k = key
        · simp [find?, hkey, ih, hkey ▸ hname]
        · simp [find?, hkey, hname, ih]

theorem getD_replace (map : Option (List (String × α))) :
    (map.map (replace key value)).getD [] = replace key value (map.getD []) := by
  cases map <;> rfl

theorem mem_replace {p : String × α} {pairs : List (String × α)} (h : p ∈ replace key value pairs) :
    p ∈ pairs ∨ p.2 = value := by
  obtain ⟨q, hq, rfl⟩ := List.mem_map.1 h
  split
  · exact Or.inr rfl
  · exact Or.inl hq

end Dictionary

/-! ## Entries without those inside -/

/-- The keys of a map. -/
def keysOf (pairs : List (String × Entry)) : List (String × Entry) :=
  pairs.map fun p => (p.1, Entry.blank)

theorem keysOf_replace (key : String) (value : Entry) (pairs : List (String × Entry)) :
    keysOf (Dictionary.replace key value pairs) = keysOf pairs := by
  have hkeys := congrArg (List.map fun k => (k, Entry.blank))
    (Dictionary.keys_replace key value pairs)
  rw [List.map_map, List.map_map] at hkeys
  exact hkeys

namespace Entry

/-- An entry without the entries inside of it: their number and their keys are left. -/
def outline (e : Entry) : Entry :=
  { e with
    captures := e.captures.map keysOf
    beginCaptures := e.beginCaptures.map keysOf
    endCaptures := e.endCaptures.map keysOf
    whileCaptures := e.whileCaptures.map keysOf
    patterns := e.patterns.map fun list => list.map fun _ => blank
    repository := e.repository.map keysOf }

/-- Puts another entry in the place that is one step inside. -/
def setChild (e : Entry) (step : Step) (child : Entry) : Entry :=
  match step with
  | .pattern i => { e with patterns := e.patterns.map fun list => list.set i child }
  | .repository name =>
    { e with repository := e.repository.map (Dictionary.replace name child) }
  | .capture .whole key => { e with captures := e.captures.map (Dictionary.replace key child) }
  | .capture .first key =>
    { e with beginCaptures := e.beginCaptures.map (Dictionary.replace key child) }
  | .capture .last key =>
    { e with endCaptures := e.endCaptures.map (Dictionary.replace key child) }
  | .capture .condition key =>
    { e with whileCaptures := e.whileCaptures.map (Dictionary.replace key child) }

theorem outline_setChild (e : Entry) (step : Step) (child : Entry) :
    (e.setChild step child).outline = e.outline := by
  have hmap : ∀ (key : String) (map : Option (List (String × Entry))),
      (map.map (Dictionary.replace key child)).map keysOf = map.map keysOf := by
    intro key map
    cases map with
    | none => rfl
    | some pairs => exact congrArg some (keysOf_replace key child pairs)
  cases step with
  | pattern i =>
      have hpatterns : (e.patterns.map fun list => list.set i child).map
          (fun list => list.map fun _ => blank) =
            e.patterns.map fun list => list.map fun _ => blank := by
        cases e.patterns with
        | none => rfl
        | some list =>
            refine congrArg some ?_
            show (list.set i child).map (fun _ => blank) = list.map fun _ => blank
            rw [List.map_const', List.map_const', List.length_set]
      simp only [outline, setChild, hpatterns]
  | repository name => simp only [outline, setChild, hmap]
  | capture which key => cases which <;> simp only [outline, setChild, hmap]

theorem repository_setChild (e : Entry) (name : String) (child : Entry) :
    (e.setChild (.repository name) child).repository.getD [] =
      Dictionary.replace name child (e.repository.getD []) :=
  Dictionary.getD_replace _

theorem captureMap_setChild (e : Entry) (which : CaptureMap) (key : String) (child : Entry)
    (other : CaptureMap) : (e.setChild (.capture which key) child).captureMap other =
      if other = which then Dictionary.replace key child (e.captureMap other)
      else e.captureMap other := by
  cases which <;> cases other <;> first | exact Dictionary.getD_replace _ | rfl

theorem patterns_setChild (e : Entry) (i : Nat) (child : Entry) :
    (e.setChild (.pattern i) child).patterns.getD [] = (e.patterns.getD []).set i child := by
  show (e.patterns.map fun list => list.set i child).getD [] = _
  cases e.patterns <;> rfl

theorem child?_setChild_self {old : Entry} (h : e.child? step = some old) :
    (e.setChild step child).child? step = some child := by
  cases step with
  | pattern i =>
      obtain ⟨hlt, -⟩ := List.getElem?_eq_some_iff.1 h
      rw [child?, patterns_setChild, List.getElem?_set_self hlt]
  | repository name =>
      have h : Dictionary.find? name (e.repository.getD []) = some old := h
      rw [child?, repository_setChild, Dictionary.find?_replace, h, Option.map_some, if_pos rfl]
  | capture which key =>
      have h : Dictionary.find? key (e.captureMap which) = some old := h
      rw [child?, captureMap_setChild, if_pos rfl, Dictionary.find?_replace, h, Option.map_some,
        if_pos rfl]

theorem child?_setChild_of_ne {other : Step} (h : other ≠ step) :
    (e.setChild step child).child? other = e.child? other := by
  have hreplace : ∀ (key name : String) (pairs : List (String × Entry)), name ≠ key →
      Dictionary.find? name (Dictionary.replace key child pairs) =
        Dictionary.find? name pairs := by
    intro key name pairs hne
    rw [Dictionary.find?_replace]
    simp [hne]
  cases step with
  | pattern i =>
      cases other with
      | pattern j =>
          have hne : i ≠ j := fun hsame => h (congrArg Step.pattern hsame.symm)
          rw [child?, patterns_setChild, List.getElem?_set_ne hne, child?]
      | repository name => rfl
      | capture which key => cases which <;> rfl
  | repository name =>
      cases other with
      | pattern j => rfl
      | repository other =>
          rw [child?, repository_setChild, child?]
          exact hreplace name other _ fun hsame => h (congrArg Step.repository hsame)
      | capture which key => cases which <;> rfl
  | capture which key =>
      cases other with
      | pattern j => cases which <;> rfl
      | repository name => cases which <;> rfl
      | capture which' other =>
          rw [child?, captureMap_setChild, child?]
          split
          · rename_i hwhich
            subst hwhich
            exact hreplace key other _ fun hsame => h (congrArg (Step.capture which') hsame)
          · rfl

theorem Keyed.setChild (h : e.Keyed) (hchild : child.Keyed) (step : Step) :
    (e.setChild step child).Keyed := by
  obtain ⟨hpatterns, hrepository, hcaptures⟩ := keyed_iff.1 h
  have hreplace : ∀ (key : String) {pairs : List (String × Entry)}, KeyedMap pairs →
      KeyedMap (Dictionary.replace key child pairs) := by
    intro key pairs hkeyed
    refine ⟨(Dictionary.keys_replace key child pairs).symm ▸ hkeyed.keys, fun p hp => ?_⟩
    rcases Dictionary.mem_replace hp with hold | hnew
    · exact hkeyed.entries p hold
    · exact hnew ▸ hchild
  cases step with
  | pattern i =>
      refine keyed_iff.2 ⟨fun inner hinner => ?_, hrepository, hcaptures⟩
      rw [patterns_setChild] at hinner
      rcases List.mem_or_eq_of_mem_set hinner with hold | rfl
      · exact hpatterns inner hold
      · exact hchild
  | repository name =>
      refine keyed_iff.2 ⟨hpatterns, ?_, hcaptures⟩
      rw [repository_setChild]
      exact hreplace name hrepository
  | capture which key =>
      have hmaps : ∀ other,
          KeyedMap ((e.setChild (.capture which key) child).captureMap other) := by
        intro other
        rw [captureMap_setChild]
        split
        · exact hreplace key (hcaptures other)
        · exact hcaptures other
      cases which <;> exact keyed_iff.2 ⟨hpatterns, hrepository, hmaps⟩

end Entry

/-! ## Documents with another entry -/

namespace Document

/-- The entry at the end of some steps, and the document where there are none. -/
def nodeAt? (d : Document) : List Step → Option Entry
  | [] => some d.asEntry
  | path => d.entryAt? path

theorem child?_asEntry (d : Document) (step : Step) : d.asEntry.child? step = d.child? step := by
  cases step with
  | pattern i => rfl
  | repository name => rfl
  | capture which key => cases which <;> rfl

theorem nodeAt?_cons (d : Document) (step : Step) (path : List Step) :
    d.nodeAt? (step :: path) = (d.nodeAt? path).bind fun e => e.child? step := by
  cases path with
  | nil => exact (d.child?_asEntry step).symm
  | cons last outer => rfl

/-- Puts another entry in the place that is one step inside. -/
def setChild (d : Document) (step : Step) (child : Entry) : Document :=
  { d with
    patterns := ((d.asEntry.setChild step child).patterns).getD []
    repository := ((d.asEntry.setChild step child).repository).getD [] }

theorem asEntry_setChild (d : Document) (step : Step) (child : Entry) :
    (d.setChild step child).asEntry = d.asEntry.setChild step child := by
  cases step with
  | pattern i => rfl
  | repository name => rfl
  | capture which key => cases which <;> rfl

/-- Puts another entry at the end of some steps. -/
def put (d : Document) (path : List Step) (e : Entry) : Document :=
  match path with
  | [] => d
  | [step] => d.setChild step e
  | step :: last :: outer =>
    match d.entryAt? (last :: outer) with
    | some owner => d.put (last :: outer) (owner.setChild step e)
    | none => d

variable {d' : Document} {outer other : List Step} {owner : Entry}

theorem nodeAt?_eq_entryAt? (h : path ≠ []) : d.nodeAt? path = d.entryAt? path := by
  cases path with
  | nil => exact absurd rfl h
  | cons step outer => rfl

/-- Where two documents have the same entry, they have the same entries inside of it. -/
theorem nodeAt?_append (h : d.nodeAt? outer = d'.nodeAt? outer) (inner : List Step) :
    d.nodeAt? (inner ++ outer) = d'.nodeAt? (inner ++ outer) := by
  induction inner with
  | nil => exact h
  | cons step inner ih => rw [List.cons_append, nodeAt?_cons, nodeAt?_cons, ih]

/-- With another entry in one place of an owner, the other places of the owner and what stands
inside of them stay as they are. -/
theorem outline_of_owner (howner : d.nodeAt? outer = some owner)
    (howner' : d'.nodeAt? outer = some (owner.setChild step e)) (hinside : outer <:+ other)
    (houtside : ¬ step :: outer <:+ other) :
    (d'.nodeAt? other).map Entry.outline = (d.nodeAt? other).map Entry.outline := by
  obtain ⟨inner, rfl⟩ := hinside
  rcases List.eq_nil_or_concat inner with rfl | ⟨inner, last, rfl⟩
  · rw [List.nil_append, howner, howner', Option.map_some, Option.map_some, Entry.outline_setChild]
  · have hne : last ≠ step := by
      rintro rfl
      exact houtside ⟨inner, by simp⟩
    have hlast : d'.nodeAt? (last :: outer) = d.nodeAt? (last :: outer) := by
      rw [nodeAt?_cons, nodeAt?_cons, howner, howner', Option.bind_some, Option.bind_some,
        Entry.child?_setChild_of_ne hne]
    have hsame := nodeAt?_append hlast inner
    rw [List.append_cons] at hsame
    rw [List.concat_eq_append, hsame]

theorem entryAt?_put {old : Entry} (h : d.entryAt? path = some old) (e : Entry) :
    (d.put path e).entryAt? path = some e := by
  induction path generalizing old e with
  | nil => cases h
  | cons step outer ih =>
      cases outer with
      | nil =>
          have h : d.asEntry.child? step = some old := (d.child?_asEntry step).trans h
          show (d.setChild step e).child? step = some e
          rw [← child?_asEntry, asEntry_setChild, Entry.child?_setChild_self h]
      | cons last rest =>
          obtain ⟨owner, howner, hchild⟩ := Option.bind_eq_some_iff.1 h
          rw [put, howner]
          have hput := ih howner (owner.setChild step e)
          rw [entryAt?_cons hput, Entry.child?_setChild_self hchild]

/-- Places that are not inside of the one with the other entry keep their outlines. -/
theorem outline_put {old : Entry} (h : d.entryAt? path = some old) (e : Entry)
    (houtside : ¬ path <:+ other) :
    ((d.put path e).nodeAt? other).map Entry.outline = (d.nodeAt? other).map Entry.outline := by
  induction path generalizing old e with
  | nil => cases h
  | cons step outer ih =>
      cases outer with
      | nil =>
          have howner : (d.setChild step e).nodeAt? [] = some (d.asEntry.setChild step e) :=
            congrArg some (d.asEntry_setChild step e)
          exact outline_of_owner rfl howner (List.nil_suffix) houtside
      | cons last rest =>
          obtain ⟨owner, howner, hchild⟩ := Option.bind_eq_some_iff.1 h
          rw [put, howner]
          by_cases hinside : last :: rest <:+ other
          · have hnode : d.nodeAt? (last :: rest) = some owner := howner
            exact outline_of_owner hnode (entryAt?_put howner _) hinside houtside
          · exact ih howner (owner.setChild step e) hinside

theorem Keyed.setChild (h : d.Keyed) (he : e.Keyed) (step : Step) : (d.setChild step e).Keyed := by
  obtain ⟨hpatterns, hrepository, -⟩ := Entry.keyed_iff.1 (h.asEntry.setChild he step)
  exact ⟨hpatterns, hrepository⟩

theorem Keyed.put (h : d.Keyed) (he : e.Keyed) (path : List Step) : (d.put path e).Keyed := by
  induction path generalizing e with
  | nil => exact h
  | cons step outer ih =>
      cases outer with
      | nil => exact h.setChild he step
      | cons last rest =>
          rw [Document.put]
          split
          · rename_i owner howner
            exact ih ((h.entryAt? howner).setChild he step)
          · exact h

end Document

/-! ## Libraries with another entry -/

/-- A place is another one or inside of it. -/
def Place.Covers (place inner : Place) : Prop :=
  place.scope = inner.scope ∧ place.path <:+ inner.path

namespace Library

/-- The entry in a place. -/
def entryAt? (lib : Library) (place : Place) : Option Entry :=
  (Dictionary.find? place.scope lib.documents).bind fun d => d.entryAt? place.path

/-- Puts another entry in a place. -/
def put (lib : Library) (place : Place) (e : Entry) : Library :=
  { lib with
    documents := lib.documents.map fun p =>
      if p.1 = place.scope then (p.1, p.2.put place.path e) else p }

/-- Two libraries have the same documents, but for what is in a place and inside of it. -/
structure AgreesBut (place : Place) (lib lib' : Library) : Prop where
  base : lib.base = lib'.base
  documents : ∀ scope, Option.Rel (fun d d' => ∀ path, ¬ place.Covers ⟨scope, path⟩ →
      (d.nodeAt? path).map Entry.outline = (d'.nodeAt? path).map Entry.outline)
    (Dictionary.find? scope lib.documents) (Dictionary.find? scope lib'.documents)

theorem AgreesBut.symm (h : AgreesBut place lib lib') : AgreesBut place lib' lib where
  base := h.base.symm
  documents := by
    intro scope
    have hdocument := h.documents scope
    generalize Dictionary.find? scope lib.documents = x at hdocument ⊢
    generalize Dictionary.find? scope lib'.documents = y at hdocument ⊢
    cases hdocument with
    | none => exact .none
    | some hsame => exact .some fun path hpath => (hsame path hpath).symm

theorem AgreesBut.trans (h : AgreesBut place lib lib') (h' : AgreesBut place lib' lib'') :
    AgreesBut place lib lib'' where
  base := h.base.trans h'.base
  documents := by
    intro scope
    have hdocument := h.documents scope
    have hdocument' := h'.documents scope
    generalize Dictionary.find? scope lib.documents = x at hdocument ⊢
    generalize Dictionary.find? scope lib'.documents = y at hdocument hdocument'
    generalize Dictionary.find? scope lib''.documents = z at hdocument' ⊢
    cases hdocument with
    | none =>
        cases hdocument' with
        | none => exact .none
    | some hsame =>
        cases hdocument' with
        | some hsame' => exact .some fun path hpath => (hsame path hpath).trans (hsame' path hpath)

theorem find?_put (lib : Library) (place : Place) (e : Entry) (scope : String) :
    Dictionary.find? scope (lib.put place e).documents =
      (Dictionary.find? scope lib.documents).map fun d =>
        if scope = place.scope then d.put place.path e else d := by
  unfold put
  dsimp only
  induction lib.documents with
  | nil => rfl
  | cons p rest ih =>
      obtain ⟨k, d⟩ := p
      rw [List.map_cons]
      by_cases hscope : k = place.scope
      · subst hscope
        by_cases hname : place.scope = scope
        · simp [Dictionary.find?, hname]
        · simp [Dictionary.find?, hname, ih]
      · by_cases hname : k = scope
        · subst hname
          simp [Dictionary.find?, hscope]
        · simp [Dictionary.find?, hscope, hname, ih]

/-- The library with another entry in a place agrees with the one that it was put into. -/
theorem agreesBut_put {old : Entry} (h : lib.entryAt? place = some old) (e : Entry) :
    AgreesBut place lib (lib.put place e) where
  base := rfl
  documents := by
    intro scope
    rw [find?_put]
    cases hd : Dictionary.find? scope lib.documents with
    | none => exact .none
    | some d =>
        refine .some fun path hpath => ?_
        dsimp only
        by_cases hscope : scope = place.scope
        · subst hscope
          have hold : d.entryAt? place.path = some old := by
            rw [entryAt?, hd, Option.bind_some] at h
            exact h
          have houtside : ¬ place.path <:+ path := fun hsuffix => hpath ⟨rfl, hsuffix⟩
          rw [if_pos rfl, Document.outline_put hold e houtside]
        · rw [if_neg hscope]

theorem entryAt?_put {old : Entry} (h : lib.entryAt? place = some old) (e : Entry) :
    (lib.put place e).entryAt? place = some e := by
  obtain ⟨d, hd, hold⟩ := Option.bind_eq_some_iff.1 h
  rw [entryAt?, find?_put, hd, Option.map_some, Option.bind_some, if_pos rfl]
  exact Document.entryAt?_put hold e

theorem Keyed.put {e : Entry} (h : lib.Keyed) (he : e.Keyed) (place : Place) :
    (lib.put place e).Keyed where
  scopes := by
    have hscopes : ((lib.put place e).documents.map Prod.fst) = lib.documents.map Prod.fst := by
      rw [Library.put, List.map_map]
      refine List.map_congr_left fun p _ => ?_
      show (if p.1 = place.scope then (p.1, p.2.put place.path e) else p).1 = p.1
      split <;> rfl
    rw [hscopes]
    exact h.scopes
  documents := by
    intro p hp
    obtain ⟨q, hq, rfl⟩ := List.mem_map.1 hp
    split
    · exact (h.documents q hq).put he place.path
    · exact h.documents q hq

end Library

end ScopeCheck
