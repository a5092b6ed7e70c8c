import ScopeCheck.Grammar.Provider
import ScopeCheck.Run.Document

/-!
# Grammars in files

`FileGrammars` is a provider of grammars: the one that the user names, and those that a directory
holds.  In the directory the grammar for a scope has the name of the scope and a suffix, and it is
taken for that scope whatever its document says.
-/

namespace ScopeCheck

/-- The grammar that the user names, and where others are looked up. -/
structure FileGrammars where
  files : Files
  scopeName : String
  main : Document
  directory : Option String
  suffix : String

namespace FileGrammars

/-- Reads the grammar that the user names.  Its document must say for which scope it is. -/
def openAt (files : Files) (path : String) (directory : Option String) (suffix : String) :
    Except RunError FileGrammars :=
  match files.readGrammar path with
  | .error e => .error e
  | .ok d =>
    match d.scopeName with
    | none | some "" => .error (.noScopeName path)
    | some scope => .ok ⟨files, scope, d, directory, suffix⟩

/-- The path of the grammar for a scope in a directory. -/
def pathFor (g : FileGrammars) (directory scope : String) : String :=
  Path.join directory (scope ++ g.suffix)

/-- Reads the document of a grammar, in the format that its path asks for. -/
def parse (path text : String) : Except GrammarError Document :=
  if Path.namesYaml path then
    match Document.ofYaml? text with
    | some d => .ok d
    | none => .error .yaml
  else (Document.ofJson text).mapError .json

/-- Reads a grammar of the directory. -/
def loadFrom (g : FileGrammars) (directory scope : String) :
    Except GrammarError (Option Document) :=
  let path := g.pathFor directory scope
  if g.files.isFile path then
    match g.files.readText path with
    | .error cause => .error (.unreadable scope (path ++ ": " ++ cause.message))
    | .ok text =>
      match parse path text with
      | .error cause => .error (.unreadable scope (path ++ ": " ++ cause.message))
      | .ok d => .ok (some { d with scopeName := some scope })
  else .ok none

/-- Reads the grammar for a scope. -/
def load (g : FileGrammars) (scope : String) : Except GrammarError (Option Document) :=
  if scope = g.scopeName then .ok (some g.main)
  else
    match g.directory with
    | none => .ok none
    | some directory => g.loadFrom directory scope

/-- The documents that a text may hold, one for each format. -/
def readings (text : String) : List Document :=
  (Document.ofYaml? text).toList ++ (Document.ofJson text).toOption.toList

theorem mem_readings {path text : String} {d : Document} (h : parse path text = .ok d) :
    d ∈ readings text := by
  unfold parse at h
  unfold readings
  split at h
  · split at h
    · rename_i found
      cases h
      simp [found]
    · cases h
  · cases hd : Document.ofJson text with
    | error e =>
      rw [hd] at h
      cases h
    | ok document =>
      rw [hd] at h
      cases h
      simp [Except.toOption]

theorem references_of_loadFrom {g : FileGrammars} {directory scope : String} {d : Document}
    (h : g.loadFrom directory scope = .ok (some d)) :
    ∃ path text read, g.files.readText path = .ok text ∧ read ∈ readings text ∧
      d.references = read.references := by
  unfold loadFrom at h
  dsimp only at h
  split at h
  · split at h
    · cases h
    · rename_i text found
      split at h
      · cases h
      · rename_i read parsed
        cases h
        exact ⟨_, text, read, found, mem_readings parsed, rfl⟩
  · cases h

/-- The files as a provider of grammars. -/
def provider (g : FileGrammars) : GrammarProvider where
  load := g.load
  finite := by
    obtain ⟨texts, mem_texts⟩ := g.files.finite_readText
    refine ⟨g.main.references ++ (texts.flatMap readings).flatMap Document.references, ?_⟩
    intro scope d h
    unfold load at h
    split at h
    · cases h
      exact List.subset_append_left _ _
    · split at h
      · cases h
      · obtain ⟨path, text, read, found, mem, same⟩ := references_of_loadFrom h
        rw [same]
        refine List.Subset.trans (fun name hname => ?_) (List.subset_append_right _ _)
        exact List.mem_flatMap.2
          ⟨read, List.mem_flatMap.2 ⟨text, mem_texts path text found, mem⟩, hname⟩

/-- Compiles the grammar that the user names, together with those that it mentions. -/
def compile {ρ : Type} (engine : RegexEngine ρ) (g : FileGrammars) : Except RunError (Grammar ρ) :=
  match g.provider.compileFor engine g.scopeName with
  | .error e => .error (.grammar g.scopeName e)
  | .ok none => .error (.grammar g.scopeName (.unreadable g.scopeName "no grammar available"))
  | .ok (some grammar) => .ok grammar

end FileGrammars

end ScopeCheck
