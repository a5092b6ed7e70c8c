/-!
# Paths

A path is a list of names between slashes.  It is kept as the text that the user has given, since
messages show it so.
-/

namespace ScopeCheck.Path

/-- The names of a path, with an empty name where two slashes meet. -/
def names (path : String) : List String := (path.toList.splitOn '/').map String.ofList

/-- A path below a directory.  A path that starts with a slash replaces the directory. -/
def join (directory path : String) : String :=
  if directory = "" || path.startsWith "/" then path
  else if directory.endsWith "/" then directory ++ path
  else directory ++ "/" ++ path

/-- The last name of a path; slashes and single dots at its end count for nothing. -/
def lastName (path : String) : String :=
  ((names path).reverse.find? fun name => name ≠ "" && name ≠ ".").getD ""

/-- What stands behind the last dot of the last name.  A dot at its start does not count. -/
def extension (path : String) : Option String :=
  let name := lastName path
  let reversed := name.toList.reverse
  let behind := reversed.takeWhile (· ≠ '.')
  match reversed.drop behind.length with
  | [] | [_] => none
  | _ => if name = ".." then none else some (String.ofList behind.reverse)

/-- Whether the file at a path is written in the indented format. -/
def namesYaml (path : String) : Bool :=
  extension path = some "yaml" || extension path = some "yml"

/-- The directory in which the last name of a path stands. -/
def parent (path : String) : String :=
  String.ofList ((path.toList.reverse.dropWhile (· ≠ '/')).dropWhile (· = '/')).reverse

end ScopeCheck.Path
