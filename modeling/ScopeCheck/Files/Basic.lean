import ScopeCheck.Text.Utf8

/-!
# Files

What is found at a path, and reading it.  `Files` answers for every path, but has finitely many
different contents.
-/

namespace ScopeCheck

/-- The content of a file. -/
abbrev Bytes := List UInt8

/-- What is found at a path. -/
inductive FileEntry
  | missing
  | directory
  /-- Some name of the path stands behind a file that is no directory. -/
  | behindFile
  | file (content : Bytes)
  /-- A file that the system does not let us read. -/
  | locked (reason : String)
  deriving Inhabited

/-- What is found at each path. -/
structure Files where
  entry : String → FileEntry
  finite : ∃ contents : List Bytes, ∀ path bytes, entry path = .file bytes → bytes ∈ contents

/-- Why a file cannot be read. -/
inductive ReadError
  | missing
  | directory
  | behindFile
  | noText
  | locked (reason : String)
  deriving DecidableEq, Inhabited, Repr

/-- The wording of a cause. -/
def ReadError.message : ReadError → String
  | missing => "No such file or directory (os error 2)"
  | directory => "Is a directory (os error 21)"
  | behindFile => "Not a directory (os error 20)"
  | noText => "stream did not contain valid UTF-8"
  | locked reason => reason

namespace Files

/-- Whether there is a file at a path. -/
def isFile (files : Files) (path : String) : Bool :=
  match files.entry path with
  | .file _ | .locked _ => true
  | _ => false

/-- The content of the file at a path. -/
def read (files : Files) (path : String) : Except ReadError Bytes :=
  match files.entry path with
  | .file content => .ok content
  | .missing => .error .missing
  | .directory => .error .directory
  | .behindFile => .error .behindFile
  | .locked reason => .error (.locked reason)

/-- The text of the file at a path. -/
def readText (files : Files) (path : String) : Except ReadError String :=
  match files.read path with
  | .error e => .error e
  | .ok content =>
    match Text.decode? content with
    | some text => .ok text
    | none => .error .noText

theorem finite_readText (files : Files) :
    ∃ texts : List String, ∀ path text, files.readText path = .ok text → text ∈ texts := by
  obtain ⟨contents, h⟩ := files.finite
  refine ⟨contents.filterMap Text.decode?, fun path text found => ?_⟩
  unfold readText read at found
  cases hentry : files.entry path with
  | file content =>
    rw [hentry] at found
    dsimp only at found
    cases hdecode : Text.decode? content with
    | none =>
      rw [hdecode] at found
      cases found
    | some t =>
      rw [hdecode] at found
      cases found
      exact List.mem_filterMap.2 ⟨content, h path content hentry, hdecode⟩
  | _ =>
    rw [hentry] at found
    cases found

/-- The entry of the first pair with a path. -/
def known (entries : List (String × FileEntry)) (path : String) : FileEntry :=
  ((entries.find? (·.1 = path)).map Prod.snd).getD .missing

/-- The files whose paths are listed. -/
def ofList (entries : List (String × FileEntry)) : Files where
  entry := known entries
  finite := by
    refine ⟨entries.filterMap fun e => match e.2 with
      | .file bytes => some bytes
      | _ => none, fun path bytes h => ?_⟩
    unfold known at h
    cases found : entries.find? (·.1 = path) with
    | none =>
      rw [found] at h
      cases h
    | some e =>
      rw [found] at h
      have h : e.2 = .file bytes := h
      exact List.mem_filterMap.2 ⟨e, List.mem_of_find?_eq_some found, by rw [h]⟩

end Files

end ScopeCheck
