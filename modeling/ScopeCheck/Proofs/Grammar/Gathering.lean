import Mathlib.Order.Bounds.Defs
import Mathlib.Data.Set.Basic
import ScopeCheck.Grammar.Provider

/-!
# What a provider is asked for

The list of pending scopes may hold a scope twice, scopes that have been asked for before, and
scopes for which there is no grammar.  `Gathered.Settles` says what it means to have worked through
such a list:

* `Settles.ask`: one more answer, and then all that it mentions;
* `Settles.fail`: a failure ends the work;
* `GrammarProvider.gather_settles`: every run of `gather` is made of these.

`GrammarProvider.asks_for_least` is what follows for a scope that is loaded: without a failure the
scopes that are asked for are the least set that holds this scope and, with a scope, all that its
document mentions.
-/

namespace ScopeCheck

variable {ρ : Type} {provider : GrammarProvider}

namespace GrammarProvider

/-- With a scope, all that its document mentions belongs to the set. -/
def IsClosed (provider : GrammarProvider) (scopes : Set String) : Prop :=
  ∀ scope ∈ scopes, ∀ d, provider.load scope = .ok (some d) → ∀ name ∈ d.references, name ∈ scopes

/-- The sets that hold a scope and are closed under mentions. -/
def closedWith (provider : GrammarProvider) (root : String) : Set (Set String) :=
  {scopes | root ∈ scopes ∧ provider.IsClosed scopes}

/-- What an answer mentions, in descending order. -/
def mentionedBy : Option Document → List String
  | none => []
  | some d => d.references.reverse

/-- None of the scopes is one for which the provider fails. -/
def Answers (provider : GrammarProvider) (scopes : List String) : Prop :=
  ∀ scope ∈ scopes, ∀ e, provider.load scope ≠ .error e

end GrammarProvider

namespace GrammarProvider.Gathered

open GrammarProvider

/-- The pending scopes have been worked through, when those of `asked` had been asked for before. -/
structure Settles (provider : GrammarProvider) (asked pending : List String) (g : Gathered) :
    Prop where
  nodup : g.requests.Nodup
  fresh : ∀ scope ∈ g.requests, scope ∉ asked
  /-- A failure is the last answer, and the result. -/
  stops : ∀ scope ∈ g.requests, ∀ e, provider.load scope = .error e →
    g.result = .error e ∧ g.requests.getLast? = some scope
  /-- Only what is pending or mentioned is asked for. -/
  inside : ∀ scopes, provider.IsClosed scopes → (∀ scope ∈ pending, scope ∈ scopes) →
    ∀ scope ∈ g.requests, scope ∈ scopes
  /-- Without a failure all that is pending has been asked for, -/
  covers : provider.Answers g.requests → ∀ scope ∈ pending, scope ∈ asked ∨ scope ∈ g.requests
  /-- and so has all that an answer mentions. -/
  follows : provider.Answers g.requests → ∀ scope ∈ g.requests, ∀ answer,
    provider.load scope = .ok answer → ∀ name ∈ mentionedBy answer,
      name ∈ asked ∨ name ∈ g.requests

variable {asked pending : List String} {g : Gathered} {scope : String}

/-- Nothing is pending. -/
theorem Settles.nil (documents : List (String × Document)) :
    Settles provider asked [] ⟨[], .ok documents⟩ := by
  constructor <;> simp

/-- A scope that has been asked for needs nothing. -/
theorem Settles.skip (hscope : scope ∈ asked) (h : Settles provider asked pending g) :
    Settles provider asked (scope :: pending) g where
  nodup := h.nodup
  fresh := h.fresh
  stops := h.stops
  inside := fun scopes hclosed hpending =>
    h.inside scopes hclosed fun s hs => hpending s (List.mem_cons_of_mem _ hs)
  covers := by
    intro hanswers s hs
    rcases List.mem_cons.1 hs with rfl | hs
    · exact Or.inl hscope
    · exact h.covers hanswers s hs
  follows := h.follows

theorem Settles.fail {e : GrammarError} (hnew : scope ∉ asked)
    (hload : provider.load scope = .error e) :
    Settles provider asked (scope :: pending) ⟨[scope], .error e⟩ where
  nodup := by simp
  fresh := by simpa using hnew
  stops := by
    intro s hs e' he
    obtain rfl := List.mem_singleton.1 hs
    obtain rfl : e = e' := by simpa [hload] using he
    exact ⟨rfl, rfl⟩
  inside := by
    intro scopes _ hpending s hs
    obtain rfl := List.mem_singleton.1 hs
    exact hpending s List.mem_cons_self
  covers := fun hanswers => absurd hload (hanswers scope List.mem_cons_self e)
  follows := fun hanswers => absurd hload (hanswers scope List.mem_cons_self e)

/-- When a scope is asked for, it moves from those that were asked for before to the requests. -/
theorem asked_or_requested {name : String} (h : name ∈ scope :: asked ∨ name ∈ g.requests) :
    name ∈ asked ∨ name ∈ scope :: g.requests := by
  rcases h with hasked | hlater
  · rcases List.mem_cons.1 hasked with rfl | hasked
    · exact Or.inr List.mem_cons_self
    · exact Or.inl hasked
  · exact Or.inr (List.mem_cons_of_mem _ hlater)

/-- An answer is followed by the answers to all that it mentions. -/
theorem Settles.ask {answer : Option Document} (hnew : scope ∉ asked)
    (hload : provider.load scope = .ok answer)
    (h : Settles provider (scope :: asked) (mentionedBy answer ++ pending) g) :
    Settles provider asked (scope :: pending) ⟨scope :: g.requests, g.result⟩ where
  nodup := by
    refine List.nodup_cons.2 ⟨fun hmem => ?_, h.nodup⟩
    exact h.fresh scope hmem List.mem_cons_self
  fresh := by
    intro s hs
    rcases List.mem_cons.1 hs with rfl | hs
    · exact hnew
    · exact fun hasked => h.fresh s hs (List.mem_cons_of_mem _ hasked)
  stops := by
    intro s hs e he
    rcases List.mem_cons.1 hs with rfl | hs
    · cases hload.symm.trans he
    · obtain ⟨hresult, hlast⟩ := h.stops s hs e he
      -- There is a last one behind `scope`, so it is the last one of all.
      refine ⟨hresult, ?_⟩
      show (scope :: g.requests).getLast? = some s
      rw [List.getLast?_cons, hlast, Option.getD_some]
  inside := by
    intro scopes hclosed hpending s hs
    have hscope : scope ∈ scopes := hpending scope List.mem_cons_self
    rcases List.mem_cons.1 hs with rfl | hs
    · exact hscope
    · refine h.inside scopes hclosed ?_ s hs
      intro name hname
      rcases List.mem_append.1 hname with hname | hname
      · cases answer with
        | none => cases hname
        | some d => exact hclosed scope hscope d hload name (List.mem_reverse.1 hname)
      · exact hpending name (List.mem_cons_of_mem _ hname)
  covers := by
    intro hanswers s hs
    have hlater : provider.Answers g.requests :=
      fun s hs => hanswers s (List.mem_cons_of_mem _ hs)
    rcases List.mem_cons.1 hs with rfl | hs
    · exact Or.inr List.mem_cons_self
    · exact asked_or_requested (h.covers hlater s (List.mem_append_right _ hs))
  follows := by
    intro hanswers s hs answer' hanswer name hname
    have hlater : provider.Answers g.requests :=
      fun s hs => hanswers s (List.mem_cons_of_mem _ hs)
    rcases List.mem_cons.1 hs with rfl | hs
    · -- What the new answer mentions was pending when the rest was worked through.
      obtain rfl : answer = answer' := by simpa [hload] using hanswer
      exact asked_or_requested (h.covers hlater name (List.mem_append_left _ hname))
    · exact asked_or_requested (h.follows hlater s hs answer' hanswer name hname)

end GrammarProvider.Gathered

namespace GrammarProvider

open Gathered

/-! ## One equation for each answer -/

/-- What is pending behind a document has been mentioned. -/
theorem mentions_of_pending {scope : String} {pending : List String} {d : Document}
    (h : ∀ s ∈ scope :: pending, provider.Mentions s) (hload : provider.load scope = .ok (some d)) :
    ∀ s ∈ d.references.reverse ++ pending, provider.Mentions s := by
  intro s hs
  rcases List.mem_append.1 hs with hs | hs
  · exact ⟨scope, d, hload, List.mem_reverse.1 hs⟩
  · exact h s (List.mem_cons_of_mem _ hs)

section Answer

variable {asked pending : List String} {documents : List (String × Document)} {scope : String}
  (hnew : scope ∉ asked) (h : ∀ s ∈ scope :: pending, provider.Mentions s)

include hnew

theorem gather_of_error {e : GrammarError} (hload : provider.load scope = .error e) :
    provider.gather asked documents (scope :: pending) h = ⟨[scope], .error e⟩ := by
  rw [gather, dif_neg hnew]
  split
  · rename_i hfail
    cases hload.symm.trans hfail
    rfl
  · rename_i hnone
    cases hload.symm.trans hnone
  · rename_i hfound
    cases hload.symm.trans hfound

theorem gather_of_none (hload : provider.load scope = .ok none)
    (hlater : ∀ s ∈ pending, provider.Mentions s) :
    provider.gather asked documents (scope :: pending) h =
      ⟨scope :: (provider.gather (scope :: asked) documents pending hlater).requests,
        (provider.gather (scope :: asked) documents pending hlater).result⟩ := by
  rw [gather, dif_neg hnew]
  split
  · rename_i hfail
    cases hload.symm.trans hfail
  · rfl
  · rename_i hfound
    cases hload.symm.trans hfound

theorem gather_of_some {d : Document} (hload : provider.load scope = .ok (some d))
    (hlater : ∀ s ∈ d.references.reverse ++ pending, provider.Mentions s) :
    provider.gather asked documents (scope :: pending) h =
      ⟨scope :: (provider.gather (scope :: asked) ((scope, d) :: documents)
          (d.references.reverse ++ pending) hlater).requests,
        (provider.gather (scope :: asked) ((scope, d) :: documents)
          (d.references.reverse ++ pending) hlater).result⟩ := by
  rw [gather, dif_neg hnew]
  split
  · rename_i hfail
    cases hload.symm.trans hfail
  · rename_i hnone
    cases hload.symm.trans hnone
  · rename_i hfound
    cases hload.symm.trans hfound
    rfl

end Answer

theorem gatherFrom_of_error {root : String} {e : GrammarError}
    (hload : provider.load root = .error e) : provider.gatherFrom root = ⟨[root], .error e⟩ := by
  unfold gatherFrom
  split
  · rename_i hfail
    cases hload.symm.trans hfail
    rfl
  · rename_i hnone
    cases hload.symm.trans hnone
  · rename_i hfound
    cases hload.symm.trans hfound

theorem gatherFrom_of_none {root : String} (hload : provider.load root = .ok none) :
    provider.gatherFrom root = ⟨[root], .ok []⟩ := by
  unfold gatherFrom
  split
  · rename_i hfail
    cases hload.symm.trans hfail
  · rfl
  · rename_i hfound
    cases hload.symm.trans hfound

theorem gatherFrom_of_some {root : String} {d : Document}
    (hload : provider.load root = .ok (some d))
    (hlater : ∀ s ∈ d.references.reverse, provider.Mentions s) :
    provider.gatherFrom root =
      ⟨root :: (provider.gather [root] [(root, d)] d.references.reverse hlater).requests,
        (provider.gather [root] [(root, d)] d.references.reverse hlater).result⟩ := by
  unfold gatherFrom
  split
  · rename_i hfail
    cases hload.symm.trans hfail
  · rename_i hnone
    cases hload.symm.trans hnone
  · rename_i hfound
    cases hload.symm.trans hfound
    rfl

/-! ## Runs -/

theorem gather_settles {asked pending : List String} {documents : List (String × Document)}
    (h : ∀ scope ∈ pending, provider.Mentions scope) :
    Settles provider asked pending (provider.gather asked documents pending h) := by
  fun_induction gather provider asked documents pending h with
  | case1 asked documents => exact .nil documents
  | case2 asked documents scope pending _ rest hasked _ ih => exact .skip hasked ih
  | case3 asked documents scope pending _ rest hnew _ e hload => exact .fail hnew hload
  | case4 asked documents scope pending _ rest hnew _ hload later _ ih => exact .ask hnew hload ih
  | case5 asked documents scope pending _ rest hnew _ d hload later _ ih => exact .ask hnew hload ih

/-- Loading a scope works through the list that holds only this scope. -/
theorem gatherFrom_settles (provider : GrammarProvider) (root : String) :
    Settles provider [] [root] (provider.gatherFrom root) := by
  unfold gatherFrom
  split
  · rename_i e hload
    exact .fail List.not_mem_nil hload
  · rename_i hload
    have hlater : Settles provider [root] (mentionedBy none ++ []) ⟨[], .ok []⟩ := .nil []
    exact .ask List.not_mem_nil hload hlater
  · rename_i d hload
    refine .ask List.not_mem_nil hload ?_
    rw [List.append_nil]
    exact gather_settles _

theorem head?_gatherFrom (provider : GrammarProvider) (root : String) :
    (provider.gatherFrom root).requests.head? = some root := by
  unfold gatherFrom
  split <;> rfl

/-- The scope itself is asked for first, and no scope twice.  Without a failure the scopes that are
asked for are the least set that holds this one and, with a scope, all that its document mentions,
whether there is a grammar for it or not.  A failure is the last answer and what loading results
in.  When there is no grammar for the scope itself nothing else is asked for. -/
theorem asks_for_least (engine : RegexEngine ρ) (provider : GrammarProvider) (root : String) :
    (provider.gatherFrom root).requests.head? = some root ∧
    (provider.gatherFrom root).requests.Nodup ∧
    ((∀ scope ∈ (provider.gatherFrom root).requests, ∀ e, provider.load scope ≠ .error e) →
      IsLeast (provider.closedWith root)
        {scope | scope ∈ (provider.gatherFrom root).requests}) ∧
    (∀ scope ∈ (provider.gatherFrom root).requests, ∀ e, provider.load scope = .error e →
      provider.compileFor engine root = .error e ∧
        (provider.gatherFrom root).requests.getLast? = some scope) ∧
    (provider.load root = .ok none →
      (provider.gatherFrom root).requests = [root] ∧
        provider.compileFor engine root = .ok none) := by
  have hsettles := gatherFrom_settles provider root
  refine ⟨head?_gatherFrom provider root, hsettles.nodup, ?_, ?_, ?_⟩
  · intro hanswers
    refine ⟨⟨?_, ?_⟩, ?_⟩
    · exact List.mem_of_head? (head?_gatherFrom provider root)
    · intro scope hscope d hload name hname
      have hname : name ∈ mentionedBy (some d) := List.mem_reverse.2 hname
      simpa using hsettles.follows hanswers scope hscope (some d) hload name hname
    · rintro scopes ⟨hroot, hclosed⟩ scope hscope
      exact hsettles.inside scopes hclosed (by simpa using hroot) scope hscope
  · intro scope hscope e hload
    obtain ⟨hresult, hlast⟩ := hsettles.stops scope hscope e hload
    refine ⟨?_, hlast⟩
    rw [compileFor, hresult]
  · intro hload
    have hnone := gatherFrom_of_none hload
    refine ⟨congrArg Gathered.requests hnone, ?_⟩
    -- A library without documents has no base grammar.
    rw [compileFor, hnone]
    rfl

end GrammarProvider

end ScopeCheck
