import ScopeCheck.Files.Basic
import ScopeCheck.Files.Path

/-!
# A directory and what is in it

A `FileTree` lists the files below a directory.  `FileTree.files` answers for paths that start
there, by following their names one by one; what is outside is missing.
-/

namespace ScopeCheck

/-- The files and directories below a directory: their names from there on, and the content of a
file. -/
structure FileTree where
  entries : List (List String × Option Bytes)

namespace FileTree

/-- Files and directories with the paths at which they stand; a directory has no content. -/
def ofPaths (entries : List (String × Option Bytes)) : FileTree :=
  ⟨entries.map fun e => ((Path.names e.1).filter fun name => name ≠ "" && name ≠ ".", e.2)⟩

/-- What has these names. -/
def lookUp (tree : FileTree) (names : List String) : FileEntry :=
  match tree.entries.find? (·.1 = names) with
  | some (_, some content) => .file content
  | some (_, none) => .directory
  | none => if tree.entries.any fun e => names.isPrefixOf e.1 then .directory else .missing

/-- Follows names from a directory inside, or from `above` levels outside. -/
def follow (tree : FileTree) : List String → Nat → List String → FileEntry
  | _, _, [] => .directory
  | inside, above, name :: rest =>
    if name = "" || name = "." then tree.follow inside above rest
    else if name = ".." then
      if inside = [] then tree.follow [] (above + 1) rest
      else tree.follow inside.dropLast above rest
    else if above ≠ 0 then .missing
    else
      match tree.lookUp (inside ++ [name]) with
      | .directory => tree.follow (inside ++ [name]) 0 rest
      | .file content => if rest = [] then .file content else .behindFile
      | other => other

/-- What is found at a path. -/
def entry (tree : FileTree) (path : String) : FileEntry :=
  if path = "" then .missing
  else if path.startsWith "/" then
    if (Path.names path).all (· = "") then .directory else .missing
  else tree.follow [] 0 (Path.names path)

theorem mem_of_lookUp {tree : FileTree} {names : List String} {content : Bytes}
    (h : tree.lookUp names = .file content) : content ∈ tree.entries.filterMap Prod.snd := by
  unfold lookUp at h
  split at h
  · rename_i names' content' found
    cases h
    exact List.mem_filterMap.2 ⟨_, List.mem_of_find?_eq_some found, rfl⟩
  · cases h
  · split at h <;> cases h

theorem mem_of_follow {tree : FileTree} {content : Bytes} (inside : List String) (above : Nat)
    (names : List String) (h : tree.follow inside above names = .file content) :
    content ∈ tree.entries.filterMap Prod.snd := by
  induction names generalizing inside above with
  | nil => cases h
  | cons name rest ih =>
    unfold follow at h
    split at h
    · exact ih _ _ h
    · split at h
      · split at h
        · exact ih _ _ h
        · exact ih _ _ h
      · split at h
        · cases h
        · split at h
          · exact ih _ _ h
          · rename_i content' found
            split at h
            · cases h
              exact mem_of_lookUp found
            · cases h
          · exact mem_of_lookUp h

/-- What is found at each path. -/
def files (tree : FileTree) : Files where
  entry := tree.entry
  finite := by
    refine ⟨tree.entries.filterMap Prod.snd, fun path bytes h => ?_⟩
    unfold entry at h
    split at h
    · cases h
    · split at h
      · split at h <;> cases h
      · exact mem_of_follow _ _ _ h

end FileTree

end ScopeCheck
