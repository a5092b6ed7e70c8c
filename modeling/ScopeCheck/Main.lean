import ScopeCheck.CommandLine
import ScopeCheck.Regex.Engine

/-!
# The program

Reads the files that a command looks at, and writes what the command answers.
-/

namespace ScopeCheck.Main

/-- What is found at a path. -/
def readEntry (path : String) : IO FileEntry := do
  try
    return .file (← IO.FS.readBinFile path).toList
  catch e =>
    match e with
    | .noFileOrDirectory .. => return .missing
    | .inappropriateType _ code _ => return if code = 21 then .directory else .behindFile
    | e => return .locked (toString e)

/-- Reads the files that a command looks at.  Every grammar that is read may mention others. -/
partial def readFiles (command : CommandLine.Command) (programDirectory : String)
    (known : List (String × FileEntry)) : IO Files := do
  let files := Files.ofList known
  let paths := CommandLine.paths files programDirectory command
  match paths.filter fun path => !known.any (·.1 = path) with
  | [] => return files
  | new =>
    let entries ← new.mapM fun path => do return (path, ← readEntry path)
    readFiles command programDirectory (known ++ entries)

end ScopeCheck.Main

open ScopeCheck in
/-- Runs the program. -/
def main (arguments : List String) : IO UInt32 := do
  let command := CommandLine.parse arguments
  let directory := Path.parent (toString (← IO.appPath))
  let files ← Main.readFiles command directory []
  let execution := CommandLine.execute Regex.engine files directory command
  (← IO.getStdout).putStr execution.out
  (← IO.getStderr).putStr execution.err
  return execution.exitCode.toUInt32
