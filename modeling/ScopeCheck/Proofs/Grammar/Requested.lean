import ScopeCheck.Proofs.Grammar.Gathering
import ScopeCheck.Proofs.Grammar.Reading

/-!
# Includes of other grammars are asked for

Two traversals read the includes of a grammar.  Gathering goes through all entries as they are
written and takes the scope from the text of each include (`Entry.mentions`); compiling follows the
includes from part to part and reads the same texts as targets (`Part.tasks`).

* `Target.mentionedScope?_of_otherScope?`: both find the same scope in a text;
* `GrammarProvider.Gathers`: a run of requests to any source, whether or not its documents mention
  finitely many scopes; `gatherFrom_eq_iff_gathers` says that gathering is such a run;
* `Gathers.answers`, `Gathers.mentions_asked`: what holds of the documents after such a run;
* `Library.Reaches`: the parts that compiling can lead to, by any route;
* `Library.Reaches.covered`: all that is mentioned in and around such a part has been asked for.

`GrammarProvider.Gathers.follows_requested` puts them together: compiling never follows an include
to a grammar that has not been asked for, so a grammar that it lacks is one that the source lacks.
-/

namespace ScopeCheck

variable {ρ : Type}

/-! ## The scope in the text of an include -/

/-- The scope of the other grammar that a target is in. -/
def Target.otherScope? : Target → Option String
  | grammar scope => some scope
  | entryOf scope _ => some scope
  | self | base | named _ => none

/-- What is read as another grammar is mentioned under the same scope, if the scope is not empty and
does not begin with a dollar sign. -/
theorem Target.mentionedScope?_of_otherScope? {text scope : String}
    (h : (Target.ofText text).otherScope? = some scope) (hempty : scope ≠ "")
    (hdollar : scope.toList.head? ≠ some '$') : mentionedScope? text = some scope := by
  -- In both readings the scope is what stands before the first number sign.
  have hscope : scope.toList = text.toList.takeWhile (· ≠ '#') ∧
      text.toList.head? ≠ some '#' := by
    unfold Target.ofText at h
    split at h
    · cases h
    · split at h
      · cases h
      · split at h
        · cases h
        · rename_i hhead
          have hhead : text.toList.head? ≠ some '#' := by
            intro hsome
            obtain ⟨rest, hrest⟩ := List.head?_eq_some_iff.1 hsome
            exact hhead rest hrest
          refine ⟨?_, hhead⟩
          split at h
          · rename_i hnone
            obtain rfl := Option.some.inj h
            have hall := List.takeWhile_append_dropWhile (p := (· ≠ '#')) (l := text.toList)
            rw [hnone, List.append_nil] at hall
            exact hall.symm
          · obtain rfl := Option.some.inj h
            exact String.toList_ofList
  obtain ⟨htake, hhash⟩ := hscope
  have hne : text.toList.takeWhile (· ≠ '#') ≠ [] := by
    rw [← htake]
    exact fun hnil => hempty (String.toList_eq_nil_iff.1 hnil)
  have hofList : String.ofList (text.toList.takeWhile (· ≠ '#')) = scope := by
    rw [← htake, String.ofList_toList]
  cases htext : text.toList with
  | nil => exact absurd (congrArg (List.takeWhile (· ≠ '#')) htext) hne
  | cons c cs =>
      have hc : c ≠ '#' := by
        rintro rfl
        exact hhash (congrArg List.head? htext)
      have hc' : c ≠ '$' := by
        rintro rfl
        rw [htake, htext, List.takeWhile_cons_of_pos (by decide)] at hdollar
        exact hdollar rfl
      unfold mentionedScope?
      split
      · rename_i name hname
        exact absurd (List.cons.inj (htext.symm.trans hname)).1 hc
      · rename_i name hname
        exact absurd (List.cons.inj (htext.symm.trans hname)).1 hc'
      · rw [if_neg hne, hofList]

/-! ## Requests to a source -/

namespace GrammarProvider

/-- What answers for scopes; its documents may mention any number of scopes. -/
abbrev Source := String → Except GrammarError (Option Document)

/-- The scopes of `pending` are worked through without a failure, when those of `asked` have been
asked for and `documents` are what came of it: these scopes are asked for then, and these documents
result. -/
inductive Gathers (load : Source) : (asked : List String) →
    (documents : List (String × Document)) → (pending requests : List String) →
    (result : List (String × Document)) → Prop
  | done {asked : List String} {documents : List (String × Document)} :
      Gathers load asked documents [] [] documents
  /-- A scope that has been asked for needs nothing. -/
  | skip {asked pending requests : List String} {documents result : List (String × Document)}
      {scope : String} (known : scope ∈ asked)
      (rest : Gathers load asked documents pending requests result) :
      Gathers load asked documents (scope :: pending) requests result
  /-- The source has no document for the scope. -/
  | lacks {asked pending requests : List String} {documents result : List (String × Document)}
      {scope : String} (new : scope ∉ asked) (loaded : load scope = .ok none)
      (rest : Gathers load (scope :: asked) documents pending requests result) :
      Gathers load asked documents (scope :: pending) (scope :: requests) result
  /-- What the document mentions is asked for next. -/
  | has {asked pending requests : List String} {documents result : List (String × Document)}
      {scope : String} {d : Document} (new : scope ∉ asked) (loaded : load scope = .ok (some d))
      (rest : Gathers load (scope :: asked) ((scope, d) :: documents)
        (d.references.reverse ++ pending) requests result) :
      Gathers load asked documents (scope :: pending) (scope :: requests) result

namespace Gathers

variable {load : Source} {asked pending requests : List String}
  {documents result : List (String × Document)}

/-- When a scope is asked for, it moves from the requests to what has been asked for. -/
theorem asked_or_requested_iff {name scope : String} :
    name ∈ asked ∨ name ∈ scope :: requests ↔ name ∈ scope :: asked ∨ name ∈ requests := by
  rw [List.mem_cons, List.mem_cons]
  exact or_left_comm.trans or_assoc.symm

/-- The documents are the answers for the scopes that have been asked for. -/
theorem answers (h : Gathers load asked documents pending requests result)
    (hasked : ∀ s ∈ asked, load s = .ok (Dictionary.find? s documents))
    (hnew : ∀ s, s ∉ asked → Dictionary.find? s documents = none) :
    ∀ s, s ∈ asked ∨ s ∈ requests → load s = .ok (Dictionary.find? s result) := by
  induction h with
  | done =>
      rintro s (hs | hs)
      · exact hasked s hs
      · cases hs
  | skip known rest ih => exact ih hasked hnew
  | @lacks asked pending requests documents result scope new loaded rest ih =>
      intro s hs
      refine ih (List.forall_mem_cons.2 ⟨?_, hasked⟩) ?_ s (asked_or_requested_iff.1 hs)
      · rw [loaded, hnew scope new]
      · exact fun s hs => hnew s fun hmem => hs (List.mem_cons_of_mem _ hmem)
  | @has asked pending requests documents result scope d new loaded rest ih =>
      -- Only the answer for `scope` is new.
      have hfind : ∀ s, s ≠ scope →
          Dictionary.find? s ((scope, d) :: documents) = Dictionary.find? s documents := by
        intro s hs
        rw [Dictionary.find?, if_neg (Ne.symm hs)]
      intro s hs
      refine ih (List.forall_mem_cons.2 ⟨?_, ?_⟩) ?_ s (asked_or_requested_iff.1 hs)
      · rw [loaded, Dictionary.find?, if_pos rfl]
      · intro s hs
        have hne : s ≠ scope := fun hsame => new (hsame ▸ hs)
        rw [hfind s hne]
        exact hasked s hs
      · intro s hs
        obtain ⟨hne, hs⟩ := not_or.1 (fun h => hs (List.mem_cons.2 h))
        rw [hfind s hne]
        exact hnew s hs

/-- All that the documents mention has been asked for, if for those at hand it had been or was
pending. -/
theorem mentions_asked (h : Gathers load asked documents pending requests result)
    (hbefore : ∀ p ∈ documents, ∀ name ∈ p.2.references, name ∈ asked ∨ name ∈ pending) :
    ∀ p ∈ result, ∀ name ∈ p.2.references, name ∈ asked ∨ name ∈ requests := by
  induction h with
  | done => exact hbefore
  | @skip asked pending requests documents result scope known rest ih =>
      refine ih fun p hp name hname => ?_
      rcases hbefore p hp name hname with hasked | hpending
      · exact Or.inl hasked
      · rcases List.mem_cons.1 hpending with rfl | hpending
        · exact Or.inl known
        · exact Or.inr hpending
  | @lacks asked pending requests documents result scope new loaded rest ih =>
      intro p hp name hname
      refine asked_or_requested_iff.2 (ih (fun p hp name hname => ?_) p hp name hname)
      exact asked_or_requested_iff.1 (hbefore p hp name hname)
  | @has asked pending requests documents result scope d new loaded rest ih =>
      intro p hp name hname
      refine asked_or_requested_iff.2 (ih ?_ p hp name hname)
      refine List.forall_mem_cons.2 ⟨fun name hname => ?_, fun p hp name hname => ?_⟩
      · exact Or.inr (List.mem_append_left _ (List.mem_reverse.2 hname))
      · rcases asked_or_requested_iff.1 (hbefore p hp name hname) with hasked | hpending
        · exact Or.inl hasked
        · exact Or.inr (List.mem_append_right _ hpending)

end Gathers

variable {provider : GrammarProvider} {asked pending requests : List String}
  {documents result : List (String × Document)}

/-- A run of `gather` without a failure works through what is pending. -/
theorem gathers_of_gather {hpending : ∀ scope ∈ pending, provider.Mentions scope}
    (h : (provider.gather asked documents pending hpending).result = .ok result) :
    Gathers provider.load asked documents pending
      (provider.gather asked documents pending hpending).requests result := by
  fun_induction gather provider asked documents pending hpending with
  | case1 asked documents =>
      obtain rfl := Except.ok.inj h
      exact .done
  | case2 asked documents scope pending _ rest hasked _ ih => exact .skip hasked (ih h)
  | case3 asked documents scope pending _ rest hnew _ e hload => cases h
  | case4 asked documents scope pending _ rest hnew _ hload later _ ih =>
      exact .lacks hnew hload (ih h)
  | case5 asked documents scope pending _ rest hnew _ d hload later _ ih =>
      exact .has hnew hload (ih h)

/-- What works through the pending scopes is the run of `gather`. -/
theorem Gathers.gather_eq (h : Gathers provider.load asked documents pending requests result)
    (hpending : ∀ scope ∈ pending, provider.Mentions scope) :
    provider.gather asked documents pending hpending = ⟨requests, .ok result⟩ := by
  induction h with
  | done => rw [gather]
  | skip known rest ih =>
      rw [gather, dif_pos known]
      exact ih _
  | lacks new loaded rest ih =>
      have hrest := fun s hs => hpending s (List.mem_cons_of_mem _ hs)
      rw [gather_of_none new hpending loaded hrest, ih]
  | has new loaded rest ih =>
      have hlater := mentions_of_pending hpending loaded
      rw [gather_of_some new hpending loaded hlater, ih]

/-- Gathering from a provider without a failure is a run of requests that begins with the scope that
is loaded. -/
theorem gatherFrom_eq_iff_gathers {root : String} :
    provider.gatherFrom root = ⟨requests, .ok documents⟩ ↔
      Gathers provider.load [] [] [root] requests documents := by
  constructor
  · intro h
    unfold gatherFrom at h
    split at h
    · cases h
    · rename_i hload
      obtain ⟨rfl, hresult⟩ := Gathered.mk.inj h
      obtain rfl := Except.ok.inj hresult
      exact .lacks List.not_mem_nil hload .done
    · rename_i d hload
      obtain ⟨rfl, hresult⟩ := Gathered.mk.inj h
      refine .has List.not_mem_nil hload ?_
      rw [List.append_nil]
      exact gathers_of_gather hresult
  · intro h
    cases h with
    | skip known => cases known
    | lacks new loaded rest =>
        cases rest
        exact gatherFrom_of_none loaded
    | @has _ _ _ _ _ _ d new loaded rest =>
        rw [List.append_nil] at rest
        have hlater : ∀ s ∈ d.references.reverse, provider.Mentions s :=
          fun s hs => ⟨root, d, loaded, List.mem_reverse.1 hs⟩
        rw [gatherFrom_of_some loaded hlater, rest.gather_eq hlater]

end GrammarProvider

/-! ## Parts that can be reached -/

namespace Entry

variable {e : Entry}

theorem mentions_eq (e : Entry) : e.mentions =
    (e.reference.bind mentionedScope?).toList ++ e.inside.flatMap fun p => p.2.mentions := by
  rw [mentions]
  refine congrArg _ ?_
  show e.inside.attach.flatMap (fun p => p.1.2.mentions) = _
  rw [← List.flatMap_map Subtype.val fun p : Step × Entry => p.2.mentions,
    List.attach_map_subtype_val]

/-- What is mentioned inside an entry, the entry mentions too. -/
theorem mentions_subset_of_mem_inside {p : Step × Entry} (h : p ∈ e.inside) :
    p.2.mentions ⊆ e.mentions := by
  intro name hname
  rw [mentions_eq]
  exact List.mem_append_right _ (List.mem_flatMap.2 ⟨p, h, hname⟩)

/-- An entry mentions what its own include does. -/
theorem mem_mentions_of_reference {text scope : String} (hreference : e.reference = some text)
    (hscope : mentionedScope? text = some scope) : scope ∈ e.mentions := by
  rw [mentions_eq, hreference, Option.bind_some, hscope]
  exact List.mem_append_left _ List.mem_cons_self

end Entry

/-- The parts that compiling can lead to: the base grammar, and what follows from such a part.  What
has been visited before and what is refused on the way play no role. -/
inductive Library.Reaches (lib : Library) : Part → Prop
  | base {p : Part} (root : lib.root lib.base = some p) : Reaches lib p
  | step {p q : Part} (reached : Reaches lib p) (task : .visit q ∈ p.tasks lib) : Reaches lib q

/-- A compiled grammar is made of such parts. -/
theorem Grammar.CompiledFrom.reaches {engine : RegexEngine ρ} {lib : Library} {g : Grammar ρ}
    {parts : List Part} (h : g.CompiledFrom engine lib parts) : ∀ p ∈ parts, lib.Reaches p := by
  refine h.induction (fun d hd => .base ?_) fun p q hp hq => .step hp hq
  rw [Library.root, hd, Option.map_some]

/-- All that is mentioned in a part and in the repositories around its entries belongs to the
scopes. -/
structure Part.Covered (scopes : List String) (p : Part) : Prop where
  own : match p with
    | .root _ d => d.references ⊆ scopes
    | .entry _ e _ => e.mentions ⊆ scopes
    | .contents _ _ e _ => e.mentions ⊆ scopes
  repositories : ∀ r ∈ p.inner.repositories, ∀ named ∈ r.entries, named.2.mentions ⊆ scopes

namespace Part

variable {lib : Library} {scopes : List String} {p q : Part}

theorem covered_root {scope : String} {d : Document} (h : d.references ⊆ scopes) :
    (Part.root scope d).Covered scopes where
  own := h
  repositories := by
    intro r hr named hnamed name hname
    obtain rfl := List.mem_singleton.1 hr
    refine h (Dictionary.mem_sortedKeys.2 (List.mem_append_right _ ?_))
    exact List.mem_flatMap.2 ⟨named, hnamed, hname⟩

theorem covered_entry {path : List Step} {e : Entry} {around : Surroundings}
    (hown : e.mentions ⊆ scopes)
    (haround : ∀ r ∈ around.repositories, ∀ named ∈ r.entries, named.2.mentions ⊆ scopes) :
    (Part.entry path e around).Covered scopes where
  own := hown
  repositories := by
    intro r hr named hnamed
    rw [Part.inner] at hr
    split at hr
    · rename_i entries hentries
      rcases List.mem_cons.1 hr with rfl | hr
      · have hinside : (Step.repository named.1, named.2) ∈ e.inside := by
          refine List.mem_append_left _ (List.mem_append_right _ (List.mem_map.2 ⟨named, ?_, rfl⟩))
          rw [hentries]
          exact hnamed
        exact List.Subset.trans (Entry.mentions_subset_of_mem_inside hinside) hown
      · exact haround r hr named hnamed
    · exact haround r hr named hnamed

/-- What the patterns of a part mention belongs to the scopes. -/
theorem Covered.written (h : p.Covered scopes) {e : Entry} (he : e ∈ p.written.2) :
    e.mentions ⊆ scopes := by
  have hinside : ∀ {outer : Entry}, e ∈ outer.patterns.getD [] → e.mentions ⊆ outer.mentions := by
    intro outer hmem
    obtain ⟨i, hi⟩ := List.getElem?_of_mem hmem
    have hchild : outer.child? (.pattern i) = some e := hi
    exact Entry.mentions_subset_of_mem_inside (Entry.mem_inside_of_child? hchild)
  cases p with
  | root scope d =>
      intro name hname
      refine h.own (Dictionary.mem_sortedKeys.2 (List.mem_append_left _ ?_))
      exact List.mem_flatMap.2 ⟨e, he, hname⟩
  | contents which path outer around => exact List.Subset.trans (hinside he) h.own
  | entry path outer around =>
      rw [Part.written] at he
      split at he
      · cases he
      · exact List.Subset.trans (hinside he) h.own

/-- What a part leads to is covered too, if all documents are. -/
theorem Leads.covered (hdocuments : ∀ p ∈ lib.documents, p.2.references ⊆ scopes)
    (h : Leads lib p q) (hp : p.Covered scopes) : q.Covered scopes := by
  cases h with
  | grammar hd => exact covered_root (hdocuments _ (Dictionary.mem_of_find? hd))
  | @entryOf _ scope name d e hd hfound =>
      have hroot : (Part.root scope d).Covered scopes :=
        covered_root (hdocuments _ (Dictionary.mem_of_find? hd))
      refine covered_entry ?_ hroot.repositories
      exact hroot.repositories _ List.mem_cons_self _ (Dictionary.mem_of_find? hfound)
  | pattern hwritten =>
      exact covered_entry (hp.written (List.mem_of_getElem? hwritten)) hp.repositories
  | named _ _ _ hfound =>
      obtain ⟨r, hr, -, hentry⟩ := mem_of_findNamed hfound
      refine covered_entry ?_ hp.repositories
      exact hp.repositories r hr _ (Dictionary.mem_of_find? hentry)
  | @capture path e capture around which map key hcapture =>
      refine ⟨List.Subset.trans ?_ hp.own, hp.repositories⟩
      have hinside : (Step.capture map key, capture) ∈ e.inside := by
        refine List.mem_append_right _ (List.mem_flatMap.2 ⟨map, by cases map <;> simp, ?_⟩)
        exact List.mem_map.2 ⟨(key, capture), hcapture, rfl⟩
      exact Entry.mentions_subset_of_mem_inside hinside

end Part

/-- If all documents are covered, so is every part that can be reached. -/
theorem Library.Reaches.covered {lib : Library} {scopes : List String} {p : Part}
    (hdocuments : ∀ p ∈ lib.documents, p.2.references ⊆ scopes) (h : lib.Reaches p) :
    p.Covered scopes := by
  induction h with
  | base hroot =>
      obtain ⟨d, hd, rfl⟩ := Option.map_eq_some_iff.1 hroot
      exact Part.covered_root (hdocuments _ (Dictionary.mem_of_find? hd))
  | step _ htask ih => exact (Part.leads_of_mem_tasks htask).covered hdocuments ih

/-- When a source has answered all requests for a scope without a failure, an include that compiling
can come to, and that names another grammar by a scope which is not empty and does not begin with a
dollar sign, names a scope that has been asked for.  There is a document for this scope exactly if
the source has one.  For a provider these are the requests and the documents of `gatherFrom`, and a
grammar that is compiled from the documents has only parts that compiling can come to. -/
theorem GrammarProvider.Gathers.follows_requested (engine : RegexEngine ρ) {load : Source}
    {root : String} {requests : List String} {documents : List (String × Document)}
    (h : Gathers load [] [] [root] requests documents) :
    (∀ p, Library.Reaches ⟨documents, root⟩ p → ∀ e ∈ p.written.2, ∀ text,
      e.reference = some text → ∀ scope, (Target.ofText text).otherScope? = some scope →
        scope ≠ "" → scope.toList.head? ≠ some '$' →
          scope ∈ requests ∧ load scope = .ok (Dictionary.find? scope documents)) ∧
    (∀ provider : GrammarProvider, provider.load = load →
      provider.gatherFrom root = ⟨requests, .ok documents⟩) ∧
    ∀ g parts, Grammar.CompiledFrom engine ⟨documents, root⟩ g parts →
      ∀ p ∈ parts, Library.Reaches ⟨documents, root⟩ p := by
  refine ⟨?_, ?_, fun g parts hcompiled => hcompiled.reaches⟩
  · intro p hp e he text hreference scope hscope hempty hdollar
    have hdocuments : ∀ p ∈ documents, p.2.references ⊆ requests := by
      intro p hp name hname
      simpa using h.mentions_asked (by simp) p hp name hname
    have hmentioned := Target.mentionedScope?_of_otherScope? hscope hempty hdollar
    have hrequested : scope ∈ requests :=
      (hp.covered hdocuments).written he (Entry.mem_mentions_of_reference hreference hmentioned)
    exact ⟨hrequested, h.answers (by simp) (fun _ _ => rfl) scope (Or.inr hrequested)⟩
  · rintro provider rfl
    exact gatherFrom_eq_iff_gathers.2 h

namespace Sample

/-- The patterns of a capture, which include an entry of a grammar that is not there. -/
def quotation : Entry := { Entry.blank with patterns := some [including "m#x"] }

/-- A match with this capture. -/
def quoted : Entry :=
  { Entry.blank with matchSource := some "q", captures := some [("0", quotation)] }

def quoting : Document := { Document.blank with patterns := [quoted] }

/-- A source that has only this grammar. -/
def quotingSource : GrammarProvider.Source := fun scope =>
  .ok (Dictionary.find? scope [("q", quoting)])

theorem quotingSource_gathers :
    GrammarProvider.Gathers quotingSource [] [] ["q"] ["q", "m"] [("q", quoting)] := by
  have hreferences : quoting.references.reverse ++ [] = ["m"] := by cbv
  refine .has List.not_mem_nil rfl ?_
  rw [hreferences]
  exact .lacks (by decide) rfl .done

/-- The patterns of the capture as a part. -/
def quotationPart : Part :=
  .contents .whole [.capture .whole "0", .pattern 0] quotation (quoting.surroundings "q")

/-- They are reached through the match. -/
theorem quotationPart_reached : Library.Reaches ⟨[("q", quoting)], "q"⟩ quotationPart := by
  have hmatch : Library.Reaches ⟨[("q", quoting)], "q"⟩
      (.entry [.pattern 0] quoted (quoting.surroundings "q")) :=
    .step (.base rfl) (List.mem_singleton.2 rfl)
  refine .step hmatch (List.mem_cons_of_mem _ (List.mem_singleton.2 ?_))
  rfl

end Sample

/-- The grammar that the capture includes has been asked for, and the source lacks it. -/
theorem GrammarProvider.Gathers.sample_follows_requested :
    Gathers Sample.quotingSource [] [] ["q"] ["q", "m"] [("q", Sample.quoting)] ∧
    Library.Reaches ⟨[("q", Sample.quoting)], "q"⟩ Sample.quotationPart ∧
    Sample.including "m#x" ∈ Sample.quotationPart.written.2 ∧
    (Target.ofText "m#x").otherScope? = some "m" ∧ "m" ≠ "" ∧ "m".toList.head? ≠ some '$' ∧
    "m" ∈ ["q", "m"] ∧
    Sample.quotingSource "m" = .ok (Dictionary.find? "m" [("q", Sample.quoting)]) := by
  have hmem : Sample.including "m#x" ∈ Sample.quotationPart.written.2 := List.mem_cons_self
  have htarget : (Target.ofText "m#x").otherScope? = some "m" := by
    cbv
  refine ⟨Sample.quotingSource_gathers, Sample.quotationPart_reached, hmem, htarget, by decide,
    by decide, ?_⟩
  exact (follows_requested .literal Sample.quotingSource_gathers).1 Sample.quotationPart
    Sample.quotationPart_reached (Sample.including "m#x") hmem "m#x" rfl "m" htarget (by decide)
    (by decide)

end ScopeCheck
