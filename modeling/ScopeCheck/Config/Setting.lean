import ScopeCheck.Toml.Document
import ScopeCheck.Text.Case

/-!
# Settings

A `Setting` is a value of the configuration together with the file that it is from.  Keys do not
depend on the letter case.

* `Setting.merge` puts a value under a key: a table is merged into what is there, any other value
  replaces it.
* A `KeyPath` leads to a setting inside others, and `KeyPath.set` makes what is missing on its way.
-/

namespace ScopeCheck

open ScopeCheck.Number

/-- A value of the configuration and its origin. -/
inductive Setting
  | nothing (origin : Option String)
  | text (origin : Option String) (text : String)
  | whole (origin : Option String) (value : Int)
  | float (origin : Option String) (value : Double)
  | truth (origin : Option String) (value : Bool)
  | list (origin : Option String) (items : List Setting)
  | table (origin : Option String) (members : List (String × Setting))
  deriving Inhabited

namespace Setting

/-- The file that a setting is from. -/
def origin : Setting → Option String
  | nothing o | text o _ | whole o _ | float o _ | truth o _ | list o _ | table o _ => o

mutual

/-- A value of a file as a setting. -/
def ofToml (o : Option String) : Toml.Value → Setting
  | .text s => text o s
  | .whole n => whole o n
  | .float d => float o d
  | .truth b => truth o b
  | .list items => list o (ofItems o items)
  | .table members => table o (ofMembers o members)

/-- The items of a list as settings. -/
def ofItems (o : Option String) : List Toml.Value → List Setting
  | [] => []
  | item :: items => ofToml o item :: ofItems o items

/-- The members of a table as settings. -/
def ofMembers (o : Option String) : List (String × Toml.Value) → List (String × Setting)
  | [] => []
  | (key, item) :: members => (key, ofToml o item) :: ofMembers o members

end

/-- A key in the letter case in which keys are kept. -/
def foldedKey (key : String) : String := String.ofList (Text.lower key.toList)

/-- The origin and the members of a table; any other setting counts as an empty one. -/
def asTable : Setting → Option String × List (String × Setting)
  | table o members => (o, members)
  | _ => (none, [])

/-- Puts a value under a key of a table, in place of what is there. -/
def put (root : Setting) (key : String) (value : Setting) : Setting :=
  table root.asTable.1 (Dictionary.insert (foldedKey key) value root.asTable.2)

/-- What a table has under a key. -/
def get? (key : String) (root : Setting) : Option Setting :=
  Dictionary.find? (foldedKey key) root.asTable.2

mutual

/-- Puts a value under a key of a table; a table is merged into what is there. -/
def merge (key : String) (root : Setting) : Setting → Setting
  | table _ members => root.put key (mergeAll ((root.get? key).getD (table none [])) members)
  | value => root.put key value

/-- Merges the members of a table into another one. -/
def mergeAll (root : Setting) : List (String × Setting) → Setting
  | [] => root
  | (key, value) :: members => mergeAll (merge key root value) members

end

/-- The items of a list; any other setting counts as an empty one. -/
def asList : Setting → Option String × List Setting
  | list o items => (o, items)
  | _ => (none, [])

/-- Puts an item at a place of a list, which is filled up to there. -/
def putItem (root : Setting) (index : Nat) (item : Setting) : Setting :=
  let (o, items) := root.asList
  let filled := items ++ List.replicate (index + 1 - items.length) (nothing none)
  list o (filled.set index item)

end Setting

/-- A step of a path: the key of a table, or the place in a list, from its end if it is negative. -/
inductive KeyStep
  | key (name : String)
  | index (place : Int)
  deriving DecidableEq, Inhabited, Repr

/-- A path to a setting: a key, and steps from there on. -/
structure KeyPath where
  first : String
  steps : List KeyStep
  deriving DecidableEq, Inhabited, Repr

namespace KeyPath

/-- Whether a character may stand in a key of a path. -/
def isKeyChar (c : Char) : Bool := c.isAlphanum || c = ' ' || c = '_' || c = '-'

/-- Reads the place in a list from behind an opening bracket. -/
def parsePlace (cs : List Char) : Option (Int × List Char) := do
  let (negative, digits) := match cs.dropWhile Toml.isBlank with
    | '-' :: rest => (true, rest)
    | rest => (false, rest)
  let (digits, rest) := Text.Numeral.spanWhile Text.Numeral.isDecimal digits
  let n ← Text.Numeral.ofDigits? 10 digits
  let n : Int := if negative then -n else n
  match rest.dropWhile Toml.isBlank with
  | ']' :: rest => if Toml.isShort n then some (n, rest) else none
  | _ => none

/-- Reads at most `fuel` steps. -/
def parseSteps : Nat → List Char → Option (List KeyStep)
  | _, [] => some []
  | 0, _ => none
  | fuel + 1, '.' :: rest =>
    let (key, rest) := Text.Numeral.spanWhile isKeyChar rest
    if key = [] then none else (parseSteps fuel rest).map (.key (String.ofList key) :: ·)
  | fuel + 1, '[' :: rest => do
    let (place, rest) ← parsePlace rest
    return .index place :: (← parseSteps fuel rest)
  | _, _ => none

/-- Reads a path. -/
def parse? (text : String) : Option KeyPath :=
  let (key, rest) := Text.Numeral.spanWhile isKeyChar text.toList
  if key = [] then none else (parseSteps rest.length rest).map fun s => ⟨String.ofList key, s⟩

/-- The path for a key of a file, which is a key of its own when it cannot be read as a path. -/
def ofKey (key : String) : KeyPath := (parse? key).getD ⟨key, []⟩

/-- The place in a list of some length. -/
def placeIn (place : Int) (length : Nat) : Nat :=
  match place with
  | .ofNat n => n
  | .negSucc n => length - (n + 1)

/-- Sets what a path leads to, from a key on. -/
def setFrom (value : Setting) : Setting → KeyStep → List KeyStep → Setting
  | root, .key name, [] => root.merge name value
  | root, .index place, [] => root.putItem (placeIn place root.asList.2.length) value
  | root, .key name, step :: steps =>
    root.put name (setFrom value ((root.get? name).getD (.nothing none)) step steps)
  | root, .index place, step :: steps =>
    let spot := placeIn place root.asList.2.length
    let inside := (root.asList.2[spot]?).getD (.nothing none)
    root.putItem spot (setFrom value inside step steps)

/-- Sets what a path leads to. -/
def set (path : KeyPath) (value root : Setting) : Setting :=
  setFrom value root (.key path.first) path.steps

end KeyPath

end ScopeCheck
