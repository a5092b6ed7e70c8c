import ScopeCheck.Files.Basic
import ScopeCheck.Fixture

/-!
# Why a run is given up

The causes for which a run ends before the checks have been evaluated and reported.
-/

namespace ScopeCheck

open ScopeCheck.Text

/-- Why a run is given up. -/
inductive RunError
  | unreadable (path : String) (cause : ReadError)
  | json (path : String) (fault : LocatedFault)
  | yaml (path : String)
  | noScopeName (path : String)
  | grammar (scope : String) (cause : GrammarError)
  | noChecks (path : String)
  | fixture (cause : FixtureError)
  | output (reason : String)
  deriving Inhabited

/-- The wording of a cause. -/
def RunError.message : RunError → String
  | unreadable path cause => "Failed to read " ++ path ++ ": " ++ cause.message
  | json path fault => "Invalid JSON in " ++ path ++ ": " ++ fault.message
  | yaml path => "Invalid YAML in " ++ path ++ ": " ++ yamlReason
  | noScopeName path => "No scopeName in grammar: " ++ path
  | grammar scope cause => "Failed to load grammar: " ++ scope ++ ": " ++ cause.message
  | noChecks path => "No checks[] in " ++ path
  | fixture cause =>
    "Tokenization failed at line " ++ Numeral.decimal cause.line ++ ": " ++ cause.cause.message
  | output reason => "Failed to write output: " ++ reason

end ScopeCheck
