import ScopeCheck.Proofs.Grammar.Decoded
import ScopeCheck.Run.FileGrammars

/-!
# Libraries that are gathered

A provider is asked for no scope twice, so that there is one document for a scope in what has been
gathered (`GrammarProvider.Answered`).  The documents of files have been read, so they have a key
once in each map.

`FileGrammars.compile_keyed` says for a grammar that is compiled from files that it is compiled from
a library of such documents.
-/

namespace ScopeCheck

/-! ## What is gathered -/

namespace GrammarProvider

variable {provider : GrammarProvider}

/-- All documents of a provider have a key once in each map. -/
def Keyed (provider : GrammarProvider) : Prop :=
  ∀ scope d, provider.load scope = .ok (some d) → d.Keyed

/-- Some documents are answers for scopes that have been asked for, one for a scope. -/
structure Answered (provider : GrammarProvider) (asked : List String)
    (documents : List (String × Document)) : Prop where
  scopes : (documents.map Prod.fst).Nodup
  asked : ∀ p ∈ documents, p.1 ∈ asked
  loaded : ∀ p ∈ documents, provider.load p.1 = .ok (some p.2)

variable {asked : List String} {documents : List (String × Document)} {scope : String}

theorem Answered.ask (h : provider.Answered asked documents) (scope : String) :
    provider.Answered (scope :: asked) documents where
  scopes := h.scopes
  asked := fun p hp => List.mem_cons_of_mem _ (h.asked p hp)
  loaded := h.loaded

theorem Answered.answer (h : provider.Answered asked documents) (hnew : scope ∉ asked)
    {d : Document} (hload : provider.load scope = .ok (some d)) :
    provider.Answered (scope :: asked) ((scope, d) :: documents) where
  scopes := by
    refine List.nodup_cons.2 ⟨fun hmem => ?_, h.scopes⟩
    obtain ⟨p, hp, hsame⟩ := List.mem_map.1 hmem
    have hsame : p.1 = scope := hsame
    exact hnew (hsame ▸ h.asked p hp)
  asked := List.forall_mem_cons.2 ⟨List.mem_cons_self, (h.ask scope).asked⟩
  loaded := List.forall_mem_cons.2 ⟨hload, h.loaded⟩

theorem Answered.keyed (h : provider.Answered asked documents) (hkeyed : provider.Keyed)
    (base : String) : Library.Keyed ⟨documents, base⟩ where
  scopes := h.scopes
  documents := fun p hp => hkeyed p.1 p.2 (h.loaded p hp)

theorem answered_of_gather {pending : List String} {result : List (String × Document)}
    {hpending : ∀ scope ∈ pending, provider.Mentions scope}
    (h : (provider.gather asked documents pending hpending).result = .ok result)
    (hanswered : provider.Answered asked documents) :
    ∃ asked, provider.Answered asked result := by
  fun_induction gather provider asked documents pending hpending with
  | case1 asked documents =>
      cases h
      exact ⟨asked, hanswered⟩
  | case2 asked documents scope pending _ rest hasked _ ih => exact ih h hanswered
  | case3 asked documents scope pending _ rest hnew _ e hload => cases h
  | case4 asked documents scope pending _ rest hnew _ hload later _ ih =>
      exact ih h (hanswered.ask scope)
  | case5 asked documents scope pending _ rest hnew _ d hload later _ ih =>
      exact ih h (hanswered.answer hnew hload)

/-- What is gathered from documents with a key once in each map is a library of them. -/
theorem Keyed.gatherFrom (hkeyed : provider.Keyed) {root : String}
    (h : (provider.gatherFrom root).result = .ok documents) : Library.Keyed ⟨documents, root⟩ := by
  have hnone : provider.Answered [] [] := ⟨List.Pairwise.nil, by simp, by simp⟩
  unfold GrammarProvider.gatherFrom at h
  split at h
  · cases h
  · cases h
    exact hnone.keyed hkeyed root
  · rename_i d hload
    obtain ⟨_, hanswered⟩ := answered_of_gather h (hnone.answer List.not_mem_nil hload)
    exact hanswered.keyed hkeyed root

end GrammarProvider

namespace FileGrammars

variable {g : FileGrammars}

theorem keyed_of_mem_readings {text : String} {d : Document} (h : d ∈ readings text) :
    d.Keyed := by
  rcases List.mem_append.1 h with h | h
  · exact Document.keyed_of_ofYaml? (Option.mem_toList.1 h)
  · cases hread : Document.ofJson text with
    | error e => simp [hread, Except.toOption] at h
    | ok d' =>
        obtain rfl : d = d' := by simpa [hread, Except.toOption] using h
        exact Document.keyed_of_ofJson hread

theorem keyed_of_loadFrom {directory scope : String} {d : Document}
    (h : g.loadFrom directory scope = .ok (some d)) : d.Keyed := by
  unfold loadFrom at h
  dsimp only at h
  split at h
  · split at h
    · cases h
    · split at h
      · cases h
      · rename_i read hparse
        cases h
        -- Only the scope is replaced.
        have hread := keyed_of_mem_readings (mem_readings hparse)
        exact ⟨hread.patterns, hread.repository⟩
  · cases h

theorem keyed_of_readGrammar {files : Files} {path : String} {d : Document}
    (h : files.readGrammar path = .ok d) : d.Keyed := by
  unfold Files.readGrammar Files.readAs at h
  split at h
  · cases h
  · split at h
    · split at h
      · rename_i hread
        cases h
        exact Document.keyed_of_ofYaml? hread
      · cases h
    · rename_i text _ _
      cases hread : Document.ofJson text with
      | error e =>
          rw [hread] at h
          cases h
      | ok read =>
          rw [hread] at h
          cases h
          exact Document.keyed_of_ofJson hread

theorem keyed_of_openAt {files : Files} {path suffix : String} {directory : Option String}
    (h : openAt files path directory suffix = .ok g) : g.provider.Keyed := by
  have hmain : g.main.Keyed := by
    unfold openAt at h
    split at h
    · cases h
    · rename_i hread
      split at h
      · cases h
      · cases h
      · cases h
        exact keyed_of_readGrammar hread
  intro scope d hload
  have hload : g.load scope = .ok (some d) := hload
  unfold load at hload
  split at hload
  · cases hload
    exact hmain
  · split at hload
    · cases hload
    · exact keyed_of_loadFrom hload

/-- A grammar that is compiled from files is compiled from documents that have a key once in each
map, with one document for a scope. -/
theorem compile_keyed {ρ : Type} {engine : RegexEngine ρ} {files : Files} {path suffix : String}
    {directory : Option String} {grammar : Grammar ρ}
    (hopen : openAt files path directory suffix = .ok g)
    (h : g.compile engine = .ok grammar) :
    ∃ lib : Library, lib.Keyed ∧ Grammar.compile engine lib = .ok (some grammar) := by
  unfold compile GrammarProvider.compileFor at h
  split at h
  · cases h
  · cases h
  · rename_i hcompiled
    cases h
    split at hcompiled
    · cases hcompiled
    · rename_i documents hgathered
      refine ⟨⟨documents, g.scopeName⟩, (keyed_of_openAt hopen).gatherFrom hgathered, ?_⟩
      cases hlib : Grammar.compile engine ⟨documents, g.scopeName⟩ with
      | error e =>
          rw [hlib] at hcompiled
          cases hcompiled
      | ok result =>
          rw [hlib] at hcompiled
          cases hcompiled
          rfl

end FileGrammars

end ScopeCheck
