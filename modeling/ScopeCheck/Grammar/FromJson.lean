import ScopeCheck.Grammar.Field
import ScopeCheck.Json.Decode

/-!
# Grammars in JSON

`Document.ofJson` reads a grammar document.  An entry is an object with known fields, or an array
of their values in a fixed order; fields that are not known are passed over.

* A field may stand once only, except in maps, where the last value of a key is taken.
* `null` is the same as a missing field inside an entry and for the texts of a document.
-/

namespace ScopeCheck

namespace GrammarJson

open JsonTree
open GrammarField

/-- Takes a truth value; `after` is where a wrong one is noticed. -/
def takeFlag (room after : Nat) (t : JsonTree) : Except Fault (Option Switch) :=
  match t with
  | .null _ => .ok none
  | t => do
    match flagOf? (← t.value room) with
    | some f => return some f
    | none => .error ⟨.noAlternative "Flag", after⟩

/-- Sets a field from a value that holds no entries. -/
def plainField (room : Nat) (name : String) (after : Nat) (e : Entry) (t : JsonTree) :
    Except Fault Entry :=
  match textField? e name, flagField? e name, mapField? e name with
  | some set, _, _ => t.text?.map set
  | _, some set, _ => (takeFlag room after t).map set
  | _, _, some set =>
    match t with
    | .null _ => .ok (set none)
    | t => .error (t.refusal "a map")
  | none, none, none =>
    match t with
    | .null _ => .ok { e with patterns := none }
    | t => .error (t.refusal "a sequence")

mutual

/-- Takes an entry. -/
def takeEntry (room : Nat) : JsonTree → Except Fault Entry
  | .object start members => do
    enter room start
    takeMembers (room - 1) [] .blank members
  | .array start items => do
    enter room start
    takeItems (room - 1) entryFields start .blank items
  | t => .error (t.refusal "struct RawRule")

/-- Takes the fields of an entry that is an object; `seen` are those that have been taken. -/
def takeMembers (room : Nat) (seen : List String) (e : Entry) : JsonMembers → Except Fault Entry
  | .done => .ok e
  | .broken b => .error b.strict
  | .more key afterKey item after rest => do
    let name ← key
    if entryFields.contains name then
      if seen.contains name then .error ⟨.duplicateField name, afterKey⟩
      else
        let e ← takeField room name after e item
        takeMembers room (name :: seen) e rest
    else
      item.passed
      takeMembers room seen e rest

/-- Takes the fields of an entry that is an array, in the order of `names`. -/
def takeItems (room : Nat) (names : List String) (start : Nat) (e : Entry) :
    JsonItems → Except Fault Entry
  | .done => .ok e
  | .broken b =>
    if names = [] then (closeArray start (.broken b)).map fun _ => e else .error b.strict
  | .more item after rest =>
    match names with
    | [] => .error ⟨.trailingText, start + 1⟩
    | name :: names => do
      let e ← takeField room name after e item
      takeItems room names after e rest

/-- Takes the value of a field. -/
def takeField (room : Nat) (name : String) (after : Nat) (e : Entry) :
    JsonTree → Except Fault Entry
  | .array start items => do
    if name = "patterns" then
      enter room start
      return { e with patterns := some (← takeEntries (room - 1) items) }
    else plainField room name after e (.array start items)
  | .object start members =>
    match mapField? e name with
    | some set => do
      enter room start
      return set (some (Dictionary.ofList (← takeMap (room - 1) members)))
    | none => plainField room name after e (.object start members)
  | t => plainField room name after e t

/-- Takes a list of entries. -/
def takeEntries (room : Nat) : JsonItems → Except Fault (List Entry)
  | .done => .ok []
  | .broken b => .error b.strict
  | .more item _ rest => do
    let e ← takeEntry room item
    return e :: (← takeEntries room rest)

/-- Takes a map of entries. -/
def takeMap (room : Nat) : JsonMembers → Except Fault (List (String × Entry))
  | .done => .ok []
  | .broken b => .error b.strict
  | .more key _ item _ rest => do
    let k ← key
    let e ← takeEntry room item
    return (k, e) :: (← takeMap room rest)

end

/-- Takes a list of texts. -/
def takeTexts : JsonItems → Except Fault (List String)
  | .done => .ok []
  | .broken b => .error b.strict
  | .more item _ rest => do
    let s ← item.text
    return s :: (← takeTexts rest)

/-- Takes the values of an array. -/
def fromArray {α : Type} (room : Nat) (take : Nat → JsonItems → Except Fault α) :
    JsonTree → Except Fault α
  | .array start items => do
    enter room start
    take (room - 1) items
  | t => .error (t.refusal "a sequence")

/-- Takes a map that is not null. -/
def fromObject (room : Nat) : JsonTree → Except Fault (List (String × Entry))
  | .object start members => do
    enter room start
    return Dictionary.ofList (← takeMap (room - 1) members)
  | t => .error (t.refusal "a map")

/-- Takes the value of a field of a document. -/
def takeDocumentField (room : Nat) (name : String) (d : Document) (t : JsonTree) :
    Except Fault Document :=
  match name with
  | "scopeName" => t.text?.map fun s => { d with scopeName := s }
  | "name" => t.text?.map fun s => { d with name := s }
  | "patterns" => (fromArray room takeEntries t).map fun ps => { d with patterns := ps }
  | "repository" => (fromObject room t).map fun m => { d with repository := m }
  | "injections" => (fromObject room t).map fun m => { d with injections := m }
  | "injectionSelector" => t.text?.map fun s => { d with injectionSelector := s }
  | "fileTypes" => (fromArray room (fun _ => takeTexts) t).map fun ts => { d with fileTypes := ts }
  | _ => t.text?.map fun s => { d with firstLineMatch := s }

/-- Takes the fields of a document that is an object. -/
def takeDocumentMembers (room : Nat) (seen : List String) (d : Document) :
    JsonMembers → Except Fault Document
  | .done => .ok d
  | .broken b => .error b.strict
  | .more key afterKey item _ rest => do
    let name ← key
    if documentFields.contains name then
      if seen.contains name then .error ⟨.duplicateField name, afterKey⟩
      else
        let d ← takeDocumentField room name d item
        takeDocumentMembers room (name :: seen) d rest
    else
      item.passed
      takeDocumentMembers room seen d rest

/-- Takes the fields of a document that is an array. -/
def takeDocumentItems (room : Nat) (names : List String) (start : Nat) (d : Document) :
    JsonItems → Except Fault Document
  | .done => .ok d
  | .broken b =>
    if names = [] then (closeArray start (.broken b)).map fun _ => d else .error b.strict
  | .more item after rest =>
    match names with
    | [] => .error ⟨.trailingText, start + 1⟩
    | name :: names => do
      let d ← takeDocumentField room name d item
      takeDocumentItems room names after d rest

/-- Takes a document. -/
def takeDocument (room : Nat) : JsonTree → Except Fault Document
  | .object start members => do
    enter room start
    takeDocumentMembers (room - 1) [] .blank members
  | .array start items => do
    enter room start
    takeDocumentItems (room - 1) documentFields start .blank items
  | t => .error (t.refusal "struct RawGrammar")

end GrammarJson

/-- Reads a grammar document. -/
def Document.ofJson (text : String) : Except LocatedFault Document :=
  JsonTree.decodeDocument (GrammarJson.takeDocument containerRoom) text

end ScopeCheck
