import ScopeCheck.Pattern.Basic
import ScopeCheck.Regex.Compile
import ScopeCheck.Regex.Matcher

/-!
# The engine of this library

`Regex.engine` compiles and searches with the pattern reader and the matcher of this library.
-/

namespace ScopeCheck.Regex

/-- The pattern reader and the matcher as an engine. -/
def engine : RegexEngine Regex where
  compile source := (compile source).mapError Error.message
  search regex text start := regex.search text start

end ScopeCheck.Regex
