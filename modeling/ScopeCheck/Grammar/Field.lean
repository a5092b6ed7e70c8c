import ScopeCheck.Grammar.Document
import ScopeCheck.Json.Value

/-!
# Fields of grammar documents

The names of the fields of an entry and of a document, and what each of them sets.
-/

namespace ScopeCheck.GrammarField

/-- The fields of an entry in the order of the array form. -/
def entryFields : List String :=
  ["include", "name", "contentName", "match", "begin", "end", "while", "captures",
    "beginCaptures", "endCaptures", "whileCaptures", "patterns", "repository",
    "applyEndPatternLast", "disabled"]

/-- Sets a field that holds a text. -/
def textField? (e : Entry) : String → Option (Option String → Entry)
  | "include" => some fun s => { e with reference := s }
  | "name" => some fun s => { e with name := s }
  | "contentName" => some fun s => { e with contentName := s }
  | "match" => some fun s => { e with matchSource := s }
  | "begin" => some fun s => { e with beginSource := s }
  | "end" => some fun s => { e with endSource := s }
  | "while" => some fun s => { e with whileSource := s }
  | _ => none

/-- Sets a field that holds a truth value. -/
def flagField? (e : Entry) : String → Option (Option Switch → Entry)
  | "applyEndPatternLast" => some fun f => { e with endLast := f }
  | "disabled" => some fun f => { e with disabled := f }
  | _ => none

/-- Sets a field that holds a map of entries. -/
def mapField? (e : Entry) : String → Option (Option (List (String × Entry)) → Entry)
  | "captures" => some fun m => { e with captures := m }
  | "beginCaptures" => some fun m => { e with beginCaptures := m }
  | "endCaptures" => some fun m => { e with endCaptures := m }
  | "whileCaptures" => some fun m => { e with whileCaptures := m }
  | "repository" => some fun m => { e with repository := m }
  | _ => none

/-- A value as a truth value. -/
def flagOf? : Json → Option Switch
  | .bool b => some (.bool b)
  | .number (.whole n) => if n ≤ 9223372036854775807 then some (.number n) else none
  | _ => none

/-- The fields of a document in the order of the array form. -/
def documentFields : List String :=
  ["scopeName", "name", "patterns", "repository", "injections", "injectionSelector", "fileTypes",
    "firstLineMatch"]

end ScopeCheck.GrammarField
