import ScopeCheck.Json.Fault
import ScopeCheck.Pattern.Basic

/-!
# Why a grammar cannot be used

The causes for which a grammar cannot be loaded or used, and their wording.  Documents in YAML are
refused without a reason.
-/

namespace ScopeCheck

/-- Why a grammar cannot be used. -/
inductive GrammarError
  | json (fault : LocatedFault)
  | yaml
  | pattern (error : PatternError)
  | unreadable (scope reason : String)
  /-- Captures that are matched inside themselves without end, so that a line has no result. -/
  | endless
  deriving Inhabited

/-- Stands for the reason why a text is no YAML. -/
def yamlReason : String := "<yaml error>"

/-- The wording of a cause. -/
def GrammarError.message : GrammarError → String
  | json fault => "invalid JSON grammar: " ++ fault.message
  | yaml => "invalid YAML grammar: " ++ yamlReason
  | pattern error => error.message
  | unreadable scope reason => "could not load grammar " ++ scope ++ ": " ++ reason
  | endless => "captures are matched inside themselves without end"

end ScopeCheck
