import ScopeCheck.Expectation.Check
import ScopeCheck.Expectation.File
import ScopeCheck.Files.Path
import ScopeCheck.Grammar.FromJson
import ScopeCheck.Grammar.FromYaml
import ScopeCheck.Run.Error

/-!
# Documents in files

The name of a file says in which of the two formats it is written.
-/

namespace ScopeCheck

namespace Files

/-- Reads the file at a path as a document. -/
def readAs {α : Type} (files : Files) (path : String)
    (ofJson : String → Except LocatedFault α) (ofYaml? : String → Option α) :
    Except RunError α :=
  match files.readText path with
  | .error cause => .error (.unreadable path cause)
  | .ok text =>
    if Path.namesYaml path then
      match ofYaml? text with
      | some d => .ok d
      | none => .error (.yaml path)
    else (ofJson text).mapError (.json path)

/-- Reads the grammar at a path. -/
def readGrammar (files : Files) (path : String) : Except RunError Document :=
  files.readAs path Document.ofJson Document.ofYaml?

/-- Reads the checks at a path, of which there must be some. -/
def readChecks (files : Files) (path : String) : Except RunError (List Check) :=
  match files.readAs path ExpectationFile.ofJson ExpectationFile.ofYaml? with
  | .error e => .error e
  | .ok (.array (item :: items)) => .ok ((item :: items).map Check.ofJson)
  | .ok _ => .error (.noChecks path)

end Files

end ScopeCheck
