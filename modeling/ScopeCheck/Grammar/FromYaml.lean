import ScopeCheck.Grammar.Field
import ScopeCheck.Yaml.Value

/-!
# Grammars in YAML

`Document.ofYaml?` reads a grammar document.  An entry is a mapping with known fields; fields that
are not known are passed over.

* A field may stand once only, except in maps, where the last value of a key is taken.
* Null is the same as a missing field inside an entry and for the texts of a document.
* Where nothing is written, there is an empty entry, list or map.
-/

namespace ScopeCheck

namespace GrammarYaml

open Yaml
open GrammarField

/-- Whether nothing is written. -/
def isEmpty : Tree → Bool
  | .scalar _ text plain => text = "" && plain
  | _ => false

/-- Whether a value counts as missing; a value that claims to be null must be. -/
def isMissing? : Tree → Option Bool
  | .scalar none text plain => some (plain && (text = "" || isNull text))
  | .scalar (some tag) text _ =>
    if tag = commonTag "null" then if isNull text then some true else none else some false
  | _ => some false

/-- Takes a value that may be missing. -/
def optional {α : Type} (take : Tree → Option α) (t : Tree) : Option (Option α) :=
  match isMissing? t with
  | none => none
  | some true => some none
  | some false => (take t).map some

/-- Takes a truth value. -/
def takeFlag (t : Tree) : Option Switch := t.value?.bind flagOf?

/-- Takes the items of a list. -/
def takeTexts (items : List Tree) : Option (List String) := items.mapM Tree.text?

/-- Sets a field from a value that holds no entries. -/
def plainField (name : String) (e : Entry) (t : Tree) : Option Entry :=
  match textField? e name, flagField? e name with
  | some set, _ => (optional Tree.text? t).map set
  | none, some set => (optional takeFlag t).map set
  | none, none => do
    let missing ← isMissing? t
    if missing || isEmpty t then
      match mapField? e name with
      | some set => return set (if missing then none else some [])
      | none => return { e with patterns := if missing then none else some [] }
    else none

mutual

/-- Takes an entry. -/
def takeEntry : Tree → Option Entry
  | .mapping _ pairs => takeFields [] .blank pairs
  | t => if isEmpty t then some .blank else none

/-- Takes the fields of an entry; `seen` are those that have been taken. -/
def takeFields (seen : List String) (e : Entry) : List (Tree × Tree) → Option Entry
  | [] => some e
  | (key, item) :: rest => do
    let name ← key.text?
    if entryFields.contains name then
      if seen.contains name then none
      else
        let e ← takeField name e item
        takeFields (name :: seen) e rest
    else takeFields seen e rest

/-- Takes the value of a field. -/
def takeField (name : String) (e : Entry) : Tree → Option Entry
  | .sequence tag items =>
    if name = "patterns" then (takeEntries items).map fun ps => { e with patterns := some ps }
    else plainField name e (.sequence tag items)
  | .mapping tag pairs =>
    match mapField? e name with
    | some set => (takeMap pairs).map fun m => set (some (Dictionary.ofList m))
    | none => plainField name e (.mapping tag pairs)
  | t => plainField name e t

/-- Takes a list of entries. -/
def takeEntries : List Tree → Option (List Entry)
  | [] => some []
  | item :: items => do
    let e ← takeEntry item
    return e :: (← takeEntries items)

/-- Takes a map of entries. -/
def takeMap : List (Tree × Tree) → Option (List (String × Entry))
  | [] => some []
  | (key, item) :: pairs => do
    let k ← key.text?
    let e ← takeEntry item
    return (k, e) :: (← takeMap pairs)

end

/-- Takes a list, which is empty where nothing is written. -/
def fromSequence {α : Type} (take : List Tree → Option (List α)) : Tree → Option (List α)
  | .sequence _ items => take items
  | t => if isEmpty t then some [] else none

/-- Takes a map of entries, which is empty where nothing is written. -/
def fromMapping : Tree → Option (List (String × Entry))
  | .mapping _ pairs => (takeMap pairs).map Dictionary.ofList
  | t => if isEmpty t then some [] else none

/-- Takes the value of a field of a document. -/
def takeDocumentField (name : String) (d : Document) (t : Tree) : Option Document :=
  match name with
  | "scopeName" => (optional Tree.text? t).map fun s => { d with scopeName := s }
  | "name" => (optional Tree.text? t).map fun s => { d with name := s }
  | "patterns" => (fromSequence takeEntries t).map fun ps => { d with patterns := ps }
  | "repository" => (fromMapping t).map fun m => { d with repository := m }
  | "injections" => (fromMapping t).map fun m => { d with injections := m }
  | "injectionSelector" => (optional Tree.text? t).map fun s => { d with injectionSelector := s }
  | "fileTypes" => (fromSequence takeTexts t).map fun ts => { d with fileTypes := ts }
  | _ => (optional Tree.text? t).map fun s => { d with firstLineMatch := s }

/-- Takes the fields of a document. -/
def takeDocumentFields (seen : List String) (d : Document) : List (Tree × Tree) → Option Document
  | [] => some d
  | (key, item) :: rest => do
    let name ← key.text?
    if documentFields.contains name then
      if seen.contains name then none
      else
        let d ← takeDocumentField name d item
        takeDocumentFields (name :: seen) d rest
    else takeDocumentFields seen d rest

/-- Takes a document. -/
def takeDocument : Tree → Option Document
  | .mapping _ pairs => takeDocumentFields [] .blank pairs
  | t => if isEmpty t then some .blank else none

end GrammarYaml

/-- Reads a grammar document. -/
def Document.ofYaml? (text : String) : Option Document :=
  (Yaml.Tree.ofText? text).bind fun tree =>
    match tree with
    | none => some .blank
    | some t => GrammarYaml.takeDocument t

end ScopeCheck
