import ScopeCheck.Grammar.Compile
import ScopeCheck.Grammar.Error

/-!
# Loading grammars

A `GrammarProvider` supplies documents by scope name.  `GrammarProvider.compileFor` asks it for a
grammar, then for every grammar that one mentions, and so on, each once; then it compiles what it
has got.  A grammar that is mentioned but not available is left out.
-/

namespace ScopeCheck

variable {ρ : Type}

/-- Supplies documents by scope name. -/
structure GrammarProvider where
  load : String → Except GrammarError (Option Document)
  /-- The documents mention finitely many scopes. -/
  finite : ∃ names : List String, ∀ scope d, load scope = .ok (some d) → d.references ⊆ names

namespace GrammarProvider

/-- Whether some document of a provider mentions a scope. -/
def Mentions (provider : GrammarProvider) (name : String) : Prop :=
  ∃ scope d, provider.load scope = .ok (some d) ∧ name ∈ d.references

theorem finite_mentions (provider : GrammarProvider) :
    ∃ names : List String, ∀ name, provider.Mentions name → name ∈ names :=
  provider.finite.imp fun _ h _ ⟨scope, d, loaded, mem⟩ => h scope d loaded mem

/-- Every scope that some document of a provider mentions. -/
noncomputable def names (provider : GrammarProvider) : List String :=
  provider.finite_mentions.choose

theorem mem_names {provider : GrammarProvider} {name : String} (h : provider.Mentions name) :
    name ∈ provider.names := provider.finite_mentions.choose_spec name h

/-- The number of scopes that a provider has not been asked for. -/
noncomputable def unasked (provider : GrammarProvider) (asked : List String) : Nat :=
  (provider.names.filter (· ∉ asked)).length

theorem unasked_cons_lt {provider : GrammarProvider} {asked : List String} {scope : String}
    (h : provider.Mentions scope) (new : scope ∉ asked) :
    provider.unasked (scope :: asked) < provider.unasked asked := by
  have step : provider.names.filter (· ∉ scope :: asked) =
      (provider.names.filter (· ∉ asked)).filter (· ≠ scope) := by
    simp [List.filter_filter, List.mem_cons]
  unfold unasked
  rw [step]
  exact List.length_filter_lt_length_iff_exists.2
    ⟨scope, List.mem_filter.2 ⟨mem_names h, by simpa using new⟩, by simp⟩

/-- The result of asking a provider: the scopes that were asked for, in order, and the documents,
the latest first. -/
structure Gathered where
  requests : List String
  result : Except GrammarError (List (String × Document))

/-- Asks for the scopes of `pending` from the left, and first for those that the document just
received mentions, in descending order; not for those of `asked`. -/
def gather (provider : GrammarProvider) (asked : List String) (documents : List (String × Document))
    (pending : List String) (h : ∀ scope ∈ pending, provider.Mentions scope) : Gathered :=
  match pending with
  | [] => ⟨[], .ok documents⟩
  | scope :: pending =>
    have rest : ∀ s ∈ pending, provider.Mentions s := fun s mem => h s (List.mem_cons_of_mem _ mem)
    if new : scope ∈ asked then provider.gather asked documents pending rest
    else
      have := unasked_cons_lt (h scope List.mem_cons_self) new
      match loaded : provider.load scope with
      | .error e => ⟨[scope], .error e⟩
      | .ok none =>
        let later := provider.gather (scope :: asked) documents pending rest
        ⟨scope :: later.requests, later.result⟩
      | .ok (some d) =>
        let later := provider.gather (scope :: asked) ((scope, d) :: documents)
          (d.references.reverse ++ pending) fun s mem =>
            (List.mem_append.1 mem).elim (fun mem => ⟨scope, d, loaded, List.mem_reverse.1 mem⟩)
              (rest s)
        ⟨scope :: later.requests, later.result⟩
termination_by (provider.unasked asked, pending.length)
decreasing_by
  all_goals simp_wf
  · exact Prod.Lex.right _ (by simp)
  · exact Prod.Lex.left _ _ this
  · exact Prod.Lex.left _ _ this

/-- Asks for a grammar and for all that it mentions, directly or through others. -/
def gatherFrom (provider : GrammarProvider) (scope : String) : Gathered :=
  match loaded : provider.load scope with
  | .error e => ⟨[scope], .error e⟩
  | .ok none => ⟨[scope], .ok []⟩
  | .ok (some d) =>
    let later := provider.gather [scope] [(scope, d)] d.references.reverse fun _ mem =>
      ⟨scope, d, loaded, List.mem_reverse.1 mem⟩
    ⟨scope :: later.requests, later.result⟩

/-- Loads and compiles a grammar; `none` when the provider lacks it. -/
def compileFor (engine : RegexEngine ρ) (provider : GrammarProvider) (scope : String) :
    Except GrammarError (Option (Grammar ρ)) :=
  match (provider.gatherFrom scope).result with
  | .error e => .error e
  | .ok documents => (Grammar.compile engine ⟨documents, scope⟩).mapError .pattern

/-- The provider that answers with these results, and lacks every other grammar. -/
def ofResults (results : List (String × Except GrammarError Document)) : GrammarProvider where
  load scope :=
    match Dictionary.find? scope results with
    | none => .ok none
    | some result => result.map some
  finite := by
    refine ⟨(results.filterMap fun p => p.2.toOption).flatMap Document.references, ?_⟩
    intro scope d hload name mem
    split at hload
    · cases hload
    · rename_i result found
      cases result with
      | error e => cases hload
      | ok document =>
        cases hload
        refine List.mem_flatMap.2 ⟨d, List.mem_filterMap.2 ?_, mem⟩
        exact ⟨(scope, .ok d), Dictionary.mem_of_find? found, rfl⟩

/-- The provider that has these documents. -/
def ofDocuments (documents : List (String × Document)) : GrammarProvider :=
  ofResults (Dictionary.mapValues .ok documents)

end GrammarProvider

end ScopeCheck
