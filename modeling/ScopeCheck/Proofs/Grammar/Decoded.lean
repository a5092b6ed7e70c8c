import ScopeCheck.Grammar.FromJson
import ScopeCheck.Grammar.FromYaml
import ScopeCheck.Proofs.Grammar.Keyed

/-!
# Documents that are read have a key once in each map

The pairs of a map are sorted when they are read, and the last value of a key is taken
(`Dictionary.isSorted_ofList`).  So each map that is set in an entry has a key once, and all other
fields leave the maps as they are:

* `GrammarField.keyed_of_mapField?`: a map is set;
* `GrammarJson.keyed_of_takeEntry`, `GrammarYaml.keyed_of_takeEntry`: an entry is read;
* `Document.keyed_of_ofJson`, `Document.keyed_of_ofYaml?`: a document is read.
-/

namespace ScopeCheck

/-! ## Dictionaries that are sorted -/

namespace Dictionary

variable {α : Type} {d : List (String × α)}

/-- The keys ascend. -/
def IsSorted (d : List (String × α)) : Prop :=
  d.Pairwise fun p q => p.1 < q.1

theorem IsSorted.nodup (h : IsSorted d) : (d.map Prod.fst).Nodup := by
  refine List.pairwise_map.2 (h.imp fun hlt heq => ?_)
  rw [heq] at hlt
  exact String.lt_irrefl _ hlt

theorem mem_insert {key : String} {value : α} {p : String × α} (h : p ∈ insert key value d) :
    p = (key, value) ∨ p ∈ d := by
  induction d with
  | nil => exact Or.inl (List.mem_singleton.1 h)
  | cons q rest ih =>
      rw [insert] at h
      split at h
      · exact List.mem_cons.1 h
      · split at h
        · exact (List.mem_cons.1 h).imp_right (List.mem_cons_of_mem _)
        · rcases List.mem_cons.1 h with rfl | hrest
          · exact Or.inr List.mem_cons_self
          · exact (ih hrest).imp_right (List.mem_cons_of_mem _)

theorem IsSorted.insert (h : IsSorted d) (key : String) (value : α) :
    IsSorted (insert key value d) := by
  induction d with
  | nil => exact List.pairwise_singleton _ _
  | cons q rest ih =>
      obtain ⟨hq, hrest⟩ := List.pairwise_cons.1 h
      rw [Dictionary.insert]
      split
      · rename_i hlt
        refine List.pairwise_cons.2 ⟨fun p hp => ?_, h⟩
        rcases List.mem_cons.1 hp with rfl | hp
        · exact hlt
        · exact String.lt_trans hlt (hq p hp)
      · rename_i hnlt
        split
        · rename_i heq
          exact List.pairwise_cons.2 ⟨fun p hp => heq ▸ hq p hp, hrest⟩
        · rename_i hne
          -- The key belongs behind `q`.
          have hlt : q.1 < key := by
            rw [← String.not_le]
            exact fun hle => hne (String.le_antisymm (String.not_lt.1 hnlt) hle)
          refine List.pairwise_cons.2 ⟨fun p hp => ?_, ih hrest⟩
          rcases mem_insert hp with rfl | hp
          · exact hlt
          · exact hq p hp

theorem isSorted_ofList (pairs : List (String × α)) : IsSorted (ofList pairs) :=
  List.foldlRecOn pairs _ List.Pairwise.nil fun _ h p _ => h.insert p.1 p.2

theorem mem_of_mem_ofList {pairs : List (String × α)} {p : String × α} (h : p ∈ ofList pairs) :
    p ∈ pairs := by
  have hall : ∀ p ∈ ofList pairs, p ∈ pairs := by
    refine List.foldlRecOn (motive := fun d => ∀ p ∈ d, p ∈ pairs) pairs _
      (fun p hp => absurd hp List.not_mem_nil) fun d hd q hq p hp => ?_
    rcases mem_insert hp with rfl | hp
    · exact hq
    · exact hd p hp
  exact hall p h

end Dictionary

theorem keyedMap_ofList {pairs : List (String × Entry)} (h : ∀ p ∈ pairs, p.2.Keyed) :
    KeyedMap (Dictionary.ofList pairs) where
  keys := (Dictionary.isSorted_ofList pairs).nodup
  entries := fun p hp => h p (Dictionary.mem_of_mem_ofList hp)

/-! ## The fields of an entry -/

namespace GrammarField

variable {e : Entry} {name : String}

theorem keyed_of_textField? {set : Option String → Entry} (h : textField? e name = some set)
    (he : e.Keyed) (text : Option String) : (set text).Keyed := by
  have hsame := Entry.keyed_iff.1 he
  unfold textField? at h
  split at h
  case h_8 => cases h
  all_goals
    cases h
    exact Entry.keyed_iff.2 hsame

theorem keyed_of_flagField? {set : Option Switch → Entry} (h : flagField? e name = some set)
    (he : e.Keyed) (flag : Option Switch) : (set flag).Keyed := by
  have hsame := Entry.keyed_iff.1 he
  unfold flagField? at h
  split at h
  case h_3 => cases h
  all_goals
    cases h
    exact Entry.keyed_iff.2 hsame

theorem keyed_of_mapField? {set : Option (List (String × Entry)) → Entry}
    (h : mapField? e name = some set) (he : e.Keyed) {entries : Option (List (String × Entry))}
    (hentries : KeyedMap (entries.getD [])) : (set entries).Keyed := by
  obtain ⟨hpatterns, hrepository, hcaptures⟩ := Entry.keyed_iff.1 he
  -- One of the maps is the new one, and the others are as before.
  have hkeyed : ∀ {e' : Entry}, e'.patterns = e.patterns →
      (e'.repository = e.repository ∨ e'.repository = entries) →
      (∀ which, e'.captureMap which = e.captureMap which ∨
        e'.captureMap which = entries.getD []) → e'.Keyed := by
    intro e' hsame hown hmaps
    refine Entry.keyed_iff.2 ⟨hsame ▸ hpatterns, ?_, fun which => ?_⟩
    · rcases hown with hown | hown
      · exact hown ▸ hrepository
      · exact hown ▸ hentries
    · rcases hmaps which with hmap | hmap
      · exact hmap ▸ hcaptures which
      · exact hmap ▸ hentries
  unfold mapField? at h
  split at h
  case h_6 => cases h
  all_goals
    cases h
    refine hkeyed rfl (by simp) fun which => ?_
    cases which <;> simp [Entry.captureMap]

end GrammarField

/-! ## Documents in JSON -/

theorem exists_of_bind_eq_ok {ε α β : Type} {x : Except ε α} {f : α → Except ε β} {b : β}
    (h : x >>= f = .ok b) : ∃ a, x = .ok a ∧ f a = .ok b := by
  cases x with
  | error e => cases h
  | ok a => exact ⟨a, rfl, h⟩

theorem exists_of_map_eq_ok {ε α β : Type} {x : Except ε α} {f : α → β} {b : β}
    (h : x.map f = .ok b) : ∃ a, x = .ok a ∧ f a = b := by
  cases x with
  | error e => cases h
  | ok a => exact ⟨a, rfl, Except.ok.inj h⟩

namespace GrammarJson

open GrammarField

theorem keyed_of_plainField {room after : Nat} {name : String} {e e' : Entry} {t : JsonTree}
    (h : plainField room name after e t = .ok e') (he : e.Keyed) : e'.Keyed := by
  unfold plainField at h
  split at h
  · rename_i set hset
    obtain ⟨text, -, rfl⟩ := exists_of_map_eq_ok h
    exact keyed_of_textField? hset he text
  · rename_i set hset _
    obtain ⟨flag, -, rfl⟩ := exists_of_map_eq_ok h
    exact keyed_of_flagField? hset he flag
  · rename_i set hset _ _
    split at h
    · cases h
      exact keyed_of_mapField? hset he keyedMap_nil
    · cases h
  · split at h
    · cases h
      exact he.setPatterns fun _ hchild => absurd hchild List.not_mem_nil
    · cases h

-- The induction is on the tree.  Where the fields of an entry are taken one by one, what has been
-- read of the entry so far is keyed as well.
mutual

theorem keyed_of_takeEntry {room : Nat} {e : Entry} :
    ∀ {t : JsonTree}, takeEntry room t = .ok e → e.Keyed
  | .object start members, h => by
      rw [takeEntry] at h
      obtain ⟨_, -, h⟩ := exists_of_bind_eq_ok h
      exact keyed_of_takeMembers Entry.keyed_blank h
  | .array start items, h => by
      rw [takeEntry] at h
      obtain ⟨_, -, h⟩ := exists_of_bind_eq_ok h
      exact keyed_of_takeItems Entry.keyed_blank h
  | .null _, h => by cases h
  | .bool _ _, h => by cases h
  | .number _ _, h => by cases h
  | .string _ _, h => by cases h
  | .broken _, h => by cases h

theorem keyed_of_takeMembers {room : Nat} {seen : List String} {e e' : Entry} (he : e.Keyed) :
    ∀ {members : JsonMembers}, takeMembers room seen e members = .ok e' → e'.Keyed
  | .done, h => by
      cases h
      exact he
  | .broken _, h => by cases h
  | .more key afterKey item after rest, h => by
      rw [takeMembers] at h
      obtain ⟨name, -, h⟩ := exists_of_bind_eq_ok h
      split at h
      · split at h
        · cases h
        · obtain ⟨next, hnext, h⟩ := exists_of_bind_eq_ok h
          exact keyed_of_takeMembers (keyed_of_takeField he hnext) h
      · obtain ⟨_, -, h⟩ := exists_of_bind_eq_ok h
        exact keyed_of_takeMembers he h

theorem keyed_of_takeItems {room start : Nat} {e e' : Entry} (he : e.Keyed) :
    ∀ {names : List String} {items : JsonItems},
      takeItems room names start e items = .ok e' → e'.Keyed
  | _, .done, h => by
      cases h
      exact he
  | names, .broken _, h => by
      rw [takeItems] at h
      split at h
      · obtain ⟨_, -, rfl⟩ := exists_of_map_eq_ok h
        exact he
      · cases h
  | [], .more item after rest, h => by cases h
  | name :: names, .more item after rest, h => by
      rw [takeItems] at h
      obtain ⟨next, hnext, h⟩ := exists_of_bind_eq_ok h
      exact keyed_of_takeItems (keyed_of_takeField he hnext) h

theorem keyed_of_takeField {room after : Nat} {name : String} {e e' : Entry} (he : e.Keyed) :
    ∀ {t : JsonTree}, takeField room name after e t = .ok e' → e'.Keyed
  | .array start items, h => by
      rw [takeField] at h
      split at h
      · obtain ⟨_, -, h⟩ := exists_of_bind_eq_ok h
        obtain ⟨entries, hentries, h⟩ := exists_of_bind_eq_ok h
        cases h
        exact he.setPatterns (keyed_of_takeEntries hentries)
      · exact keyed_of_plainField h he
  | .object start members, h => by
      rw [takeField] at h
      split at h
      · rename_i set hset
        obtain ⟨_, -, h⟩ := exists_of_bind_eq_ok h
        obtain ⟨pairs, hpairs, h⟩ := exists_of_bind_eq_ok h
        cases h
        exact keyed_of_mapField? hset he (keyedMap_ofList (keyed_of_takeMap hpairs))
      · exact keyed_of_plainField h he
  | .null _, h => keyed_of_plainField h he
  | .bool _ _, h => keyed_of_plainField h he
  | .number _ _, h => keyed_of_plainField h he
  | .string _ _, h => keyed_of_plainField h he
  | .broken _, h => keyed_of_plainField h he

theorem keyed_of_takeEntries {room : Nat} {entries : List Entry} :
    ∀ {items : JsonItems}, takeEntries room items = .ok entries → ∀ e ∈ entries, e.Keyed
  | .done, h => by
      cases h
      exact fun _ he => absurd he List.not_mem_nil
  | .broken _, h => by cases h
  | .more item after rest, h => by
      rw [takeEntries] at h
      obtain ⟨first, hfirst, h⟩ := exists_of_bind_eq_ok h
      obtain ⟨others, hothers, h⟩ := exists_of_bind_eq_ok h
      cases h
      exact List.forall_mem_cons.2 ⟨keyed_of_takeEntry hfirst, keyed_of_takeEntries hothers⟩

theorem keyed_of_takeMap {room : Nat} {pairs : List (String × Entry)} :
    ∀ {members : JsonMembers}, takeMap room members = .ok pairs → ∀ p ∈ pairs, p.2.Keyed
  | .done, h => by
      cases h
      exact fun _ hp => absurd hp List.not_mem_nil
  | .broken _, h => by cases h
  | .more key afterKey item after rest, h => by
      rw [takeMap] at h
      obtain ⟨k, -, h⟩ := exists_of_bind_eq_ok h
      obtain ⟨first, hfirst, h⟩ := exists_of_bind_eq_ok h
      obtain ⟨others, hothers, h⟩ := exists_of_bind_eq_ok h
      cases h
      exact List.forall_mem_cons.2 ⟨keyed_of_takeEntry hfirst, keyed_of_takeMap hothers⟩

end

theorem keyed_of_fromArray {room : Nat} {t : JsonTree} {entries : List Entry}
    (h : fromArray room takeEntries t = .ok entries) : ∀ e ∈ entries, e.Keyed := by
  cases t with
  | array start items =>
      obtain ⟨_, -, h⟩ := exists_of_bind_eq_ok h
      exact keyed_of_takeEntries h
  | _ => cases h

theorem keyedMap_of_fromObject {room : Nat} {t : JsonTree} {entries : List (String × Entry)}
    (h : fromObject room t = .ok entries) : KeyedMap entries := by
  cases t with
  | object start members =>
      obtain ⟨_, -, h⟩ := exists_of_bind_eq_ok h
      obtain ⟨pairs, hpairs, h⟩ := exists_of_bind_eq_ok h
      cases h
      exact keyedMap_ofList (keyed_of_takeMap hpairs)
  | _ => cases h

theorem keyed_of_takeDocumentField {room : Nat} {name : String} {d d' : Document} {t : JsonTree}
    (h : takeDocumentField room name d t = .ok d') (hd : d.Keyed) : d'.Keyed := by
  unfold takeDocumentField at h
  split at h
  case h_3 =>
    obtain ⟨entries, hentries, rfl⟩ := exists_of_map_eq_ok h
    exact ⟨keyed_of_fromArray hentries, hd.repository⟩
  case h_4 =>
    obtain ⟨entries, hentries, rfl⟩ := exists_of_map_eq_ok h
    exact ⟨hd.patterns, keyedMap_of_fromObject hentries⟩
  -- The other fields hold no entries that are compiled.
  all_goals
    obtain ⟨_, -, rfl⟩ := exists_of_map_eq_ok h
    exact ⟨hd.patterns, hd.repository⟩

theorem keyed_of_takeDocumentMembers {room : Nat} {seen : List String} {d d' : Document}
    {members : JsonMembers} (h : takeDocumentMembers room seen d members = .ok d')
    (hd : d.Keyed) : d'.Keyed := by
  fun_induction takeDocumentMembers room seen d members with
  | case1 seen d =>
      cases h
      exact hd
  | case2 seen d faults => cases h
  | case3 seen d key afterKey item after rest ihknown ihpassed =>
      obtain ⟨name, -, h⟩ := exists_of_bind_eq_ok h
      split at h
      · split at h
        · cases h
        · obtain ⟨next, hnext, h⟩ := exists_of_bind_eq_ok h
          exact ihknown name next h (keyed_of_takeDocumentField hnext hd)
      · obtain ⟨_, -, h⟩ := exists_of_bind_eq_ok h
        exact ihpassed h hd

theorem keyed_of_takeDocumentItems {room start : Nat} {names : List String} {d d' : Document}
    {items : JsonItems} (h : takeDocumentItems room names start d items = .ok d')
    (hd : d.Keyed) : d'.Keyed := by
  fun_induction takeDocumentItems room names start d items with
  | case1 names start d =>
      cases h
      exact hd
  | case2 start d faults =>
      obtain ⟨_, -, rfl⟩ := exists_of_map_eq_ok h
      exact hd
  | case3 names start d faults hnames => cases h
  | case4 start d item after rest => cases h
  | case5 start d item after rest name names ih =>
      obtain ⟨next, hnext, h⟩ := exists_of_bind_eq_ok h
      exact ih next h (keyed_of_takeDocumentField hnext hd)

theorem keyed_of_takeDocument {room : Nat} {t : JsonTree} {d : Document}
    (h : takeDocument room t = .ok d) : d.Keyed := by
  cases t with
  | object start members =>
      obtain ⟨_, -, h⟩ := exists_of_bind_eq_ok h
      exact keyed_of_takeDocumentMembers h Document.keyed_blank
  | array start items =>
      obtain ⟨_, -, h⟩ := exists_of_bind_eq_ok h
      exact keyed_of_takeDocumentItems h Document.keyed_blank
  | _ => cases h

end GrammarJson

/-- Whatever is read from JSON has a key once in each map. -/
theorem Document.keyed_of_ofJson {text : String} {d : Document}
    (h : Document.ofJson text = .ok d) : d.Keyed := by
  unfold Document.ofJson JsonTree.decodeDocument at h
  dsimp only at h
  split at h
  · rename_i htaken _
    cases h
    exact GrammarJson.keyed_of_takeDocument htaken
  · cases h
  · cases h

/-! ## Documents in YAML -/

namespace GrammarYaml

open GrammarField Yaml

theorem keyed_of_plainField {name : String} {e e' : Entry} {t : Tree}
    (h : plainField name e t = some e') (he : e.Keyed) : e'.Keyed := by
  unfold plainField at h
  split at h
  · rename_i set hset
    obtain ⟨text, -, rfl⟩ := Option.map_eq_some_iff.1 h
    exact keyed_of_textField? hset he text
  · rename_i set _ hset
    obtain ⟨flag, -, rfl⟩ := Option.map_eq_some_iff.1 h
    exact keyed_of_flagField? hset he flag
  · obtain ⟨missing, -, h⟩ := Option.bind_eq_some_iff.1 h
    split at h
    · split at h
      · rename_i set hset
        cases h
        exact keyed_of_mapField? hset he (by cases missing <;> exact keyedMap_nil)
      · cases h
        refine he.setPatterns fun child hchild => ?_
        cases missing <;> exact absurd hchild List.not_mem_nil
    · cases h

mutual

theorem keyed_of_takeEntry {e : Entry} : ∀ {t : Tree}, takeEntry t = some e → e.Keyed
  | .mapping tag pairs, h => by
      rw [takeEntry] at h
      exact keyed_of_takeFields Entry.keyed_blank h
  | .scalar tag text plain, h => by
      unfold takeEntry at h
      split at h
      · cases h
        exact Entry.keyed_blank
      · cases h
  | .sequence tag items, h => by cases h
  | .refused, h => by cases h

theorem keyed_of_takeFields {seen : List String} {e e' : Entry} (he : e.Keyed) :
    ∀ {pairs : List (Tree × Tree)}, takeFields seen e pairs = some e' → e'.Keyed
  | [], h => by
      cases h
      exact he
  | (key, item) :: rest, h => by
      rw [takeFields] at h
      obtain ⟨name, -, h⟩ := Option.bind_eq_some_iff.1 h
      split at h
      · split at h
        · cases h
        · obtain ⟨next, hnext, h⟩ := Option.bind_eq_some_iff.1 h
          exact keyed_of_takeFields (keyed_of_takeField he hnext) h
      · exact keyed_of_takeFields he h

theorem keyed_of_takeField {name : String} {e e' : Entry} (he : e.Keyed) :
    ∀ {t : Tree}, takeField name e t = some e' → e'.Keyed
  | .sequence tag items, h => by
      rw [takeField] at h
      split at h
      · obtain ⟨entries, hentries, rfl⟩ := Option.map_eq_some_iff.1 h
        exact he.setPatterns (keyed_of_takeEntries hentries)
      · exact keyed_of_plainField h he
  | .mapping tag pairs, h => by
      rw [takeField] at h
      split at h
      · rename_i set hset
        obtain ⟨entries, hentries, rfl⟩ := Option.map_eq_some_iff.1 h
        exact keyed_of_mapField? hset he (keyedMap_ofList (keyed_of_takeMap hentries))
      · exact keyed_of_plainField h he
  | .scalar tag text plain, h => keyed_of_plainField h he
  | .refused, h => keyed_of_plainField h he

theorem keyed_of_takeEntries {entries : List Entry} :
    ∀ {items : List Tree}, takeEntries items = some entries → ∀ e ∈ entries, e.Keyed
  | [], h => by
      cases h
      exact fun _ he => absurd he List.not_mem_nil
  | item :: items, h => by
      rw [takeEntries] at h
      obtain ⟨first, hfirst, h⟩ := Option.bind_eq_some_iff.1 h
      obtain ⟨others, hothers, h⟩ := Option.bind_eq_some_iff.1 h
      cases h
      exact List.forall_mem_cons.2 ⟨keyed_of_takeEntry hfirst, keyed_of_takeEntries hothers⟩

theorem keyed_of_takeMap {entries : List (String × Entry)} :
    ∀ {pairs : List (Tree × Tree)}, takeMap pairs = some entries → ∀ p ∈ entries, p.2.Keyed
  | [], h => by
      cases h
      exact fun _ hp => absurd hp List.not_mem_nil
  | (key, item) :: pairs, h => by
      rw [takeMap] at h
      obtain ⟨k, -, h⟩ := Option.bind_eq_some_iff.1 h
      obtain ⟨first, hfirst, h⟩ := Option.bind_eq_some_iff.1 h
      obtain ⟨others, hothers, h⟩ := Option.bind_eq_some_iff.1 h
      cases h
      exact List.forall_mem_cons.2 ⟨keyed_of_takeEntry hfirst, keyed_of_takeMap hothers⟩

end

theorem keyed_of_fromSequence {t : Tree} {entries : List Entry}
    (h : fromSequence takeEntries t = some entries) : ∀ e ∈ entries, e.Keyed := by
  unfold fromSequence at h
  split at h
  · exact keyed_of_takeEntries h
  · split at h
    · cases h
      exact fun _ he => absurd he List.not_mem_nil
    · cases h

theorem keyedMap_of_fromMapping {t : Tree} {entries : List (String × Entry)}
    (h : fromMapping t = some entries) : KeyedMap entries := by
  unfold fromMapping at h
  split at h
  · obtain ⟨pairs, hpairs, rfl⟩ := Option.map_eq_some_iff.1 h
    exact keyedMap_ofList (keyed_of_takeMap hpairs)
  · split at h
    · cases h
      exact keyedMap_nil
    · cases h

theorem keyed_of_takeDocumentField {name : String} {d d' : Document} {t : Tree}
    (h : takeDocumentField name d t = some d') (hd : d.Keyed) : d'.Keyed := by
  unfold takeDocumentField at h
  split at h
  case h_3 =>
    obtain ⟨entries, hentries, rfl⟩ := Option.map_eq_some_iff.1 h
    exact ⟨keyed_of_fromSequence hentries, hd.repository⟩
  case h_4 =>
    obtain ⟨entries, hentries, rfl⟩ := Option.map_eq_some_iff.1 h
    exact ⟨hd.patterns, keyedMap_of_fromMapping hentries⟩
  all_goals
    obtain ⟨_, -, rfl⟩ := Option.map_eq_some_iff.1 h
    exact ⟨hd.patterns, hd.repository⟩

theorem keyed_of_takeDocumentFields {seen : List String} {d d' : Document}
    {pairs : List (Tree × Tree)} (h : takeDocumentFields seen d pairs = some d')
    (hd : d.Keyed) : d'.Keyed := by
  induction pairs generalizing seen d with
  | nil =>
      cases h
      exact hd
  | cons pair rest ih =>
      obtain ⟨key, item⟩ := pair
      rw [takeDocumentFields] at h
      obtain ⟨name, -, h⟩ := Option.bind_eq_some_iff.1 h
      split at h
      · split at h
        · cases h
        · obtain ⟨next, hnext, h⟩ := Option.bind_eq_some_iff.1 h
          exact ih h (keyed_of_takeDocumentField hnext hd)
      · exact ih h hd

theorem keyed_of_takeDocument {t : Tree} {d : Document} (h : takeDocument t = some d) :
    d.Keyed := by
  unfold takeDocument at h
  split at h
  · exact keyed_of_takeDocumentFields h Document.keyed_blank
  · split at h
    · cases h
      exact Document.keyed_blank
    · cases h

end GrammarYaml

/-- Whatever is read from YAML has a key once in each map. -/
theorem Document.keyed_of_ofYaml? {text : String} {d : Document}
    (h : Document.ofYaml? text = some d) : d.Keyed := by
  obtain ⟨tree, -, h⟩ := Option.bind_eq_some_iff.1 h
  cases tree with
  | none =>
      cases h
      exact Document.keyed_blank
  | some t => exact GrammarYaml.keyed_of_takeDocument h

end ScopeCheck
