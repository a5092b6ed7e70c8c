import ScopeCheck.Proofs.Engine
import ScopeCheck.Proofs.Grammar.Agreement
import ScopeCheck.Run.FileGrammars

/-!
# The files of a directory that matter

The grammar for a scope is the file of the directory that has the scope and the suffix as its name.
Only the files for scopes that the main grammar leads to are looked at:

* `FileGrammars.load_withFiles`: for one scope only the file with its name matters, and that only
  if it is a file; for the scope of the main grammar no file matters;
* `FileGrammars.compile_withFiles`: what is compiled is the same with other files, if they are the
  same at the names for the scopes that are needed;
* `FileGrammars.compile_ignores_unrelated` says so of all contents of the directory and of a change
  at any other path, whatever is put there.
-/

namespace ScopeCheck

/-! ## Files that agree -/

namespace Files

variable {files files' : Files} {path : String}

/-- There is the same at a path. -/
def AgreeAt (files files' : Files) (path : String) : Prop :=
  files'.entry path = files.entry path

theorem AgreeAt.readText_eq (h : files.AgreeAt files' path) :
    files'.readText path = files.readText path := by
  rw [readText, read, h, readText, read]

theorem AgreeAt.isFile_eq (h : files.AgreeAt files' path) :
    files'.isFile path = files.isFile path := by
  rw [isFile, h, isFile]

theorem AgreeAt.readAs_eq {α : Type} {ofJson : String → Except LocatedFault α}
    {ofYaml? : String → Option α} (h : files.AgreeAt files' path) :
    files'.readAs path ofJson ofYaml? = files.readAs path ofJson ofYaml? := by
  rw [readAs, h.readText_eq, readAs]

/-- There is the same file at a path, or neither has a file there. -/
def SameFileAt (files files' : Files) (path : String) : Prop :=
  files.AgreeAt files' path ∨ files.isFile path = false ∧ files'.isFile path = false

/-- The files with something else at one path. -/
def put (files : Files) (path : String) (entry : FileEntry) : Files where
  entry p := if p = path then entry else files.entry p
  finite := by
    obtain ⟨contents, h⟩ := files.finite
    refine ⟨(match entry with | .file bytes => [bytes] | _ => []) ++ contents, fun p bytes hp => ?_⟩
    split at hp
    · subst hp
      exact List.mem_append_left _ List.mem_cons_self
    · exact List.mem_append_right _ (h p bytes hp)

theorem put_agreeAt {other : String} (entry : FileEntry) (h : other ≠ path) :
    files.AgreeAt (files.put path entry) other :=
  if_neg h

end Files

/-! ## Grammars in other files -/

namespace FileGrammars

variable {ρ : Type} {g : FileGrammars} {files' : Files}

/-- The same grammar and the same directory in other files. -/
def withFiles (g : FileGrammars) (files : Files) : FileGrammars := { g with files := files }

theorem loadFrom_withFiles {directory scope : String}
    (h : g.files.SameFileAt files' (g.pathFor directory scope)) :
    (g.withFiles files').loadFrom directory scope = g.loadFrom directory scope := by
  have hpath : (g.withFiles files').pathFor directory scope = g.pathFor directory scope := rfl
  have hfiles : (g.withFiles files').files = files' := rfl
  simp only [loadFrom, hpath, hfiles]
  rcases h with hagree | ⟨hnone, hnone'⟩
  · simp only [hagree.isFile_eq, hagree.readText_eq]
  · simp only [hnone, hnone', Bool.false_eq_true, if_false]

/-- The grammar for a scope is the same if the file with its name is, and the main grammar in any
case. -/
theorem load_withFiles {scope : String}
    (h : scope ≠ g.scopeName → ∀ directory, g.directory = some directory →
      g.files.SameFileAt files' (g.pathFor directory scope)) :
    (g.withFiles files').load scope = g.load scope := by
  have hscope : (g.withFiles files').scopeName = g.scopeName := rfl
  have hmain : (g.withFiles files').main = g.main := rfl
  have hdirectory : (g.withFiles files').directory = g.directory := rfl
  rw [load, hscope, hmain, hdirectory, load]
  split
  · rfl
  · rename_i hne
    cases hsome : g.directory with
    | none => rfl
    | some directory => exact loadFrom_withFiles (h hne directory hsome)

/-- The files of the directory for the scopes that the main grammar leads to are the same, but for
one that has its own scope. -/
def SameNeeds (g : FileGrammars) (files' : Files) : Prop :=
  ∀ directory, g.directory = some directory → ∀ scope, g.provider.Needs g.scopeName scope →
    scope ≠ g.scopeName → g.files.SameFileAt files' (g.pathFor directory scope)

theorem compile_withFiles (engine : RegexEngine ρ) (h : g.SameNeeds files') :
    (g.withFiles files').compile engine = g.compile engine := by
  have hagree : g.provider.AgreesFrom (g.withFiles files').provider g.scopeName :=
    fun scope hneeds => load_withFiles fun hne directory hsome => h directory hsome scope hneeds hne
  have hscope : (g.withFiles files').scopeName = g.scopeName := rfl
  rw [compile, hscope, GrammarProvider.compileFor_congr engine hagree, compile]

/-- The files that the main grammar does not lead to never matter.  If two contents of the directory
have the same file, or both none, for every scope that is needed and is not that of the main
grammar, the same grammar is compiled, or the same error results.  So whatever is put at a path that
is not the name for such a scope, be it the name for the scope of the main grammar or a broken file
for a scope that nothing mentions, changes nothing. -/
theorem compile_ignores_unrelated (engine : RegexEngine ρ) (g : FileGrammars) :
    (∀ files', g.SameNeeds files' → (g.withFiles files').compile engine = g.compile engine) ∧
    ∀ path entry,
      (∀ directory, g.directory = some directory → ∀ scope, g.provider.Needs g.scopeName scope →
        scope ≠ g.scopeName → g.pathFor directory scope ≠ path) →
      (g.withFiles (g.files.put path entry)).compile engine = g.compile engine := by
  refine ⟨fun files' h => compile_withFiles engine h, fun path entry hpath => ?_⟩
  refine compile_withFiles engine fun directory hsome scope hneeds hne => Or.inl ?_
  exact Files.put_agreeAt entry (hpath directory hsome scope hneeds hne)

end FileGrammars

/-! ## A directory with broken files -/

namespace Sample

/-- A grammar that includes another one. -/
def hostDocument : Document :=
  { Document.blank with patterns := [{ Entry.blank with reference := some "guest" }] }

/-- The text of the other grammar, which includes a third one. -/
def guestText : String := "\x7b\"patterns\":[\x7b\"include\":\"absent\"\x7d]\x7d"

/-- A directory with the other grammar. -/
def hostGrammars : FileGrammars :=
  ⟨.ofList [("d/guest.json", .file (Text.encode guestText))], "host", hostDocument, some "d",
    ".json"⟩

/-- The same file between one for the main grammar, one that nothing mentions, and a directory with
the name for a grammar that is not there. -/
def crowdedFiles : Files := .ofList
  [("d/host.json", .file (Text.encode "[")), ("d/other.json", .file (Text.encode "[")),
    ("d/absent.json", .directory), ("d/guest.json", .file (Text.encode guestText))]

theorem pathFor_guest : hostGrammars.pathFor "d" "guest" = "d/guest.json" := by
  have hslash : "d".endsWith "/" = false := by decide +kernel
  simp [FileGrammars.pathFor, Path.join, hostGrammars, hslash]

theorem pathFor_absent : hostGrammars.pathFor "d" "absent" = "d/absent.json" := by
  have hslash : "d".endsWith "/" = false := by decide +kernel
  simp [FileGrammars.pathFor, Path.join, hostGrammars, hslash]

theorem references_of_load_guest {d : Document} (h : hostGrammars.load "guest" = .ok (some d)) :
    d.references = ["absent"] := by
  have hload : hostGrammars.load "guest" = hostGrammars.loadFrom "d" "guest" := rfl
  have hentry : hostGrammars.files.entry "d/guest.json" = .file (Text.encode guestText) := rfl
  have hdecode : Text.decode? (Text.encode guestText) = some guestText := by
    decide +kernel
  have hfile : hostGrammars.files.isFile "d/guest.json" = true := by
    rw [Files.isFile, hentry]
  have htext : hostGrammars.files.readText "d/guest.json" = .ok guestText := by
    simp only [Files.readText, Files.read, hentry, hdecode]
  simp only [hload, FileGrammars.loadFrom, pathFor_guest, hfile, htext, if_true] at h
  -- Read in either format, the text mentions the same.
  have hread : ∀ read ∈ FileGrammars.readings guestText, read.references = ["absent"] := by
    decide +kernel
  cases hparse : FileGrammars.parse "d/guest.json" guestText with
  | error e =>
      rw [hparse] at h
      cases h
  | ok read =>
      rw [hparse] at h
      cases h
      exact hread read (FileGrammars.mem_readings hparse)

theorem load_absent : hostGrammars.load "absent" = .ok none := by
  have hload : hostGrammars.load "absent" = hostGrammars.loadFrom "d" "absent" := rfl
  have hentry : hostGrammars.files.entry "d/absent.json" = .missing := rfl
  have hfile : hostGrammars.files.isFile "d/absent.json" = false := by
    rw [Files.isFile, hentry]
  simp only [hload, FileGrammars.loadFrom, pathFor_absent, hfile, Bool.false_eq_true, if_false]

theorem hostGrammars_needs {scope : String} (h : hostGrammars.provider.Needs "host" scope) :
    scope = "host" ∨ scope = "guest" ∨ scope = "absent" := by
  have hmem : scope ∈ ["host", "guest", "absent"] := by
    refine h.mem_of_closed List.mem_cons_self ?_
    intro scope hscope d hload
    have hload : hostGrammars.load scope = .ok (some d) := hload
    simp only [List.mem_cons, List.not_mem_nil, or_false] at hscope
    rcases hscope with rfl | rfl | rfl
    · have hhost : hostGrammars.load "host" = .ok (some hostDocument) := rfl
      cases hhost.symm.trans hload
      have hreferences : hostDocument.references = ["guest"] := by
        decide +kernel
      simp [hreferences]
    · simp [references_of_load_guest hload]
    · cases load_absent.symm.trans hload
  simpa using hmem

theorem hostGrammars_sameNeeds : hostGrammars.SameNeeds crowdedFiles := by
  intro directory hsome scope hneeds hne
  obtain rfl : "d" = directory := Option.some.inj hsome
  rcases hostGrammars_needs hneeds with rfl | rfl | rfl
  · exact absurd rfl hne
  · rw [pathFor_guest]
    exact Or.inl rfl
  · rw [pathFor_absent]
    exact Or.inr ⟨by decide, by decide⟩

end Sample

open Sample in
/-- Neither the broken file for the main grammar nor the one that nothing mentions is read, and a
file may be put in the place of the former. -/
theorem FileGrammars.sample_ignores_unrelated :
    hostGrammars.SameNeeds crowdedFiles ∧
    (hostGrammars.withFiles crowdedFiles).compile .literal = hostGrammars.compile .literal ∧
    (hostGrammars.withFiles (hostGrammars.files.put "d/host.json" .directory)).compile .literal =
      hostGrammars.compile .literal := by
  obtain ⟨hcontents, hput⟩ := compile_ignores_unrelated .literal hostGrammars
  refine ⟨hostGrammars_sameNeeds, hcontents _ hostGrammars_sameNeeds, hput _ _ ?_⟩
  intro directory hsome scope hneeds hne
  obtain rfl : "d" = directory := Option.some.inj hsome
  rcases hostGrammars_needs hneeds with rfl | rfl | rfl
  · exact absurd rfl hne
  · rw [pathFor_guest]
    decide
  · rw [pathFor_absent]
    decide

end ScopeCheck
