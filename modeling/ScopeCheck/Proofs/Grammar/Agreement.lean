import ScopeCheck.Proofs.Grammar.Gathering

/-!
# Providers that agree

Loading a scope asks only for scopes to which documents lead from there.  `GrammarProvider.Needs`
names these scopes.  Two providers that answer alike for the scopes that one of them needs cannot be
told apart:

* `gather_congr`: with nothing but needed scopes pending, both are asked for the same scopes and
  give the same documents;
* `compileFor_congr`: the same grammar is compiled, or loading fails in the same way.

The induction is on the requests to the provider whose needs are known; the needs of the other one
are not looked at.
-/

namespace ScopeCheck.GrammarProvider

variable {ρ : Type} {provider other : GrammarProvider} {root : String}

/-- The scopes to which loading `root` can come: `root` itself, and with a scope all that its
document mentions. -/
inductive Needs (provider : GrammarProvider) (root : String) : String → Prop
  | root : Needs provider root root
  | mentioned {scope name : String} {d : Document} (needed : Needs provider root scope)
      (loaded : provider.load scope = .ok (some d)) (mem : name ∈ d.references) :
      Needs provider root name

/-- A set that holds the scope itself and is closed under mentions holds all that is needed. -/
theorem Needs.mem_of_closed {scopes : List String} (hroot : root ∈ scopes)
    (hclosed : ∀ scope ∈ scopes, ∀ d, provider.load scope = .ok (some d) → d.references ⊆ scopes)
    {scope : String} (h : provider.Needs root scope) : scope ∈ scopes := by
  induction h with
  | root => exact hroot
  | mentioned _ hload hmem ih => exact hclosed _ ih _ hload hmem

/-- The other provider answers alike for all that this one needs. -/
def AgreesFrom (provider other : GrammarProvider) (root : String) : Prop :=
  ∀ scope, provider.Needs root scope → other.load scope = provider.load scope

theorem gather_congr (hagree : provider.AgreesFrom other root) {asked pending : List String}
    {documents : List (String × Document)} (hneeds : ∀ scope ∈ pending, provider.Needs root scope)
    (h : ∀ scope ∈ pending, provider.Mentions scope)
    (h' : ∀ scope ∈ pending, other.Mentions scope) :
    other.gather asked documents pending h' = provider.gather asked documents pending h := by
  fun_induction gather provider asked documents pending h with
  | case1 asked documents => rw [gather]
  | case2 asked documents scope pending _ rest hasked _ ih =>
      rw [gather, dif_pos hasked]
      exact ih (List.forall_mem_cons.1 hneeds).2 _
  | case3 asked documents scope pending _ rest hnew _ e hload =>
      have hother := (hagree scope (hneeds scope List.mem_cons_self)).trans hload
      exact gather_of_error hnew h' hother
  | case4 asked documents scope pending _ rest hnew _ hload later _ ih =>
      have hother := (hagree scope (hneeds scope List.mem_cons_self)).trans hload
      have hrest := (List.forall_mem_cons.1 h').2
      rw [gather_of_none hnew h' hother hrest, ih (List.forall_mem_cons.1 hneeds).2 hrest]
  | case5 asked documents scope pending _ rest hnew _ d hload later _ ih =>
      have hscope := hneeds scope List.mem_cons_self
      have hother := (hagree scope hscope).trans hload
      have hlater := mentions_of_pending h' hother
      have hneedsLater : ∀ s ∈ d.references.reverse ++ pending, provider.Needs root s := by
        intro s hs
        rcases List.mem_append.1 hs with hs | hs
        · exact .mentioned hscope hload (List.mem_reverse.1 hs)
        · exact hneeds s (List.mem_cons_of_mem _ hs)
      rw [gather_of_some hnew h' hother hlater, ih hneedsLater hlater]

theorem gatherFrom_congr (hagree : provider.AgreesFrom other root) :
    other.gatherFrom root = provider.gatherFrom root := by
  cases hload : provider.load root with
  | error e =>
      have hother := (hagree root .root).trans hload
      rw [gatherFrom_of_error hload, gatherFrom_of_error hother]
  | ok answer =>
      have hother := (hagree root .root).trans hload
      cases answer with
      | none => rw [gatherFrom_of_none hload, gatherFrom_of_none hother]
      | some d =>
          have hlater : ∀ s ∈ d.references.reverse, provider.Mentions s :=
            fun s hs => ⟨root, d, hload, List.mem_reverse.1 hs⟩
          have hlater' : ∀ s ∈ d.references.reverse, other.Mentions s :=
            fun s hs => ⟨root, d, hother, List.mem_reverse.1 hs⟩
          have hneeds : ∀ s ∈ d.references.reverse, provider.Needs root s :=
            fun s hs => .mentioned .root hload (List.mem_reverse.1 hs)
          rw [gatherFrom_of_some hload hlater, gatherFrom_of_some hother hlater',
            gather_congr hagree hneeds hlater hlater']

theorem compileFor_congr (engine : RegexEngine ρ) (hagree : provider.AgreesFrom other root) :
    other.compileFor engine root = provider.compileFor engine root := by
  rw [compileFor, gatherFrom_congr hagree, compileFor]

end ScopeCheck.GrammarProvider
