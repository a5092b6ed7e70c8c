import ScopeCheck.Json.Decode
import ScopeCheck.Yaml.Value

/-!
# Expectation files

An expectation file is an object with a field `checks`; other fields are passed over.
`ExpectationFile.ofJson` and `ExpectationFile.ofYaml?` give the value of the field, null when it is
missing.
-/

namespace ScopeCheck.ExpectationFile

open JsonTree

/-- The field that holds the checks. -/
def checksField : String := "checks"

/-- Takes the field from an object. -/
def takeMembers (room : Nat) (found : Option Json) : JsonMembers → Except Fault Json
  | .done => .ok (found.getD .null)
  | .broken b => .error b.strict
  | .more key afterKey item _ rest => do
    let name ← key
    if name = checksField then
      if found.isSome then .error ⟨.duplicateField name, afterKey⟩
      else
        let v ← item.value room
        takeMembers room (some v) rest
    else
      item.passed
      takeMembers room found rest

/-- Takes the checks of a file, which may also be an array that holds them as its only value. -/
def take (room : Nat) : JsonTree → Except Fault Json
  | .object start members => do
    enter room start
    takeMembers (room - 1) none members
  | .array start items => do
    enter room start
    match items with
    | .done => .ok .null
    | .broken b => .error b.strict
    | .more item after rest => do
      let v ← item.value (room - 1)
      closeArray after rest
      return v
  | t => .error (t.refusal "struct ExpectationFile")

/-- Reads the checks of a file. -/
def ofJson (text : String) : Except LocatedFault Json :=
  decodeDocument (take containerRoom) text

/-- Takes the field from the pairs of a mapping. -/
def takePairs (found : Option Json) : List (Yaml.Tree × Yaml.Tree) → Option Json
  | [] => some (found.getD .null)
  | (key, item) :: rest => do
    let name ← key.text?
    if name = checksField then
      if found.isSome then none
      else
        let v ← item.value?
        takePairs (some v) rest
    else takePairs found rest

/-- Reads the checks of a file in the other format.  A file that holds nothing has none. -/
def ofYaml? (text : String) : Option Json :=
  (Yaml.Tree.ofText? text).bind fun tree =>
    match tree with
    | none => some .null
    | some (.mapping _ pairs) => takePairs none pairs
    | some (.scalar _ text plain) => if text = "" && plain then some .null else none
    | some _ => none

end ScopeCheck.ExpectationFile
