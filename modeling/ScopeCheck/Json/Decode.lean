import ScopeCheck.Json.Reader

/-!
# Taking documents apart

What is wanted of a tree, and the fault when it is something else.  `JsonTree.value` takes any
value, `JsonTree.passed` passes over one.  `room` is the number of containers that may still be
opened inside each other.
-/

namespace ScopeCheck

/-- How deep containers may stand inside each other. -/
def containerRoom : Nat := 128

namespace JsonTree

/-- What a tree is and where a reader stands that has looked at it, or why it is nothing. -/
def actual : JsonTree → Except Fault (Actual × Nat)
  | null stop => .ok (.null, stop)
  | bool b stop => .ok (.bool b, stop)
  | number (.ok n) stop => .ok (.number n, stop)
  | number (.error f) _ => .error f
  | string (.ok s) stop => .ok (.string s, stop)
  | string (.error f) _ => .error f
  | array start _ => .ok (.array, start)
  | object start _ => .ok (.object, start)
  | broken b => .error b.strict

/-- The fault of a tree that is not what is wanted. -/
def refusal (wanted : String) (t : JsonTree) : Fault :=
  match t.actual with
  | .ok (actual, index) => ⟨.wrongType actual wanted, index⟩
  | .error f => f

/-- Takes a string. -/
def text : JsonTree → Except Fault String
  | string s _ => s
  | t => .error (t.refusal "a string")

/-- Takes a string that may be null. -/
def text? : JsonTree → Except Fault (Option String)
  | null _ => .ok none
  | t => t.text.map some

/-- Fails when a container is opened where there is no room left. -/
def enter (room start : Nat) : Except Fault Unit :=
  if room ≤ 1 then .error ⟨.tooDeep, start + 1⟩ else .ok ()

mutual

/-- Takes any value. -/
def value (room : Nat) : JsonTree → Except Fault Json
  | null _ => .ok .null
  | bool b _ => .ok (.bool b)
  | number n _ => n.map .number
  | string s _ => s.map .string
  | array start items => do
    enter room start
    return .array (← itemValues (room - 1) items)
  | object start members => do
    enter room start
    return .ofMembers (← memberValues (room - 1) members)
  | broken b => .error b.strict

/-- Takes the values of an array. -/
def itemValues (room : Nat) : JsonItems → Except Fault (List Json)
  | .done => .ok []
  | .broken b => .error b.strict
  | .more item _ rest => do
    let v ← value room item
    return v :: (← itemValues room rest)

/-- Takes the members of an object. -/
def memberValues (room : Nat) : JsonMembers → Except Fault (List (String × Json))
  | .done => .ok []
  | .broken b => .error b.strict
  | .more key _ item _ rest => do
    let k ← key
    let v ← value room item
    return (k, v) :: (← memberValues room rest)

end

mutual

/-- Passes over a value. -/
def passed : JsonTree → Except Fault Unit
  | array _ items => itemsPassed items
  | object _ members => membersPassed members
  | broken b => .error b.loose
  | _ => .ok ()

/-- Passes over the values of an array. -/
def itemsPassed : JsonItems → Except Fault Unit
  | .done => .ok ()
  | .broken b => .error b.loose
  | .more item _ rest => do
    passed item
    itemsPassed rest

/-- Passes over the members of an object. -/
def membersPassed : JsonMembers → Except Fault Unit
  | .done => .ok ()
  | .broken b => .error b.loose
  | .more _ _ item _ rest => do
    passed item
    membersPassed rest

end

/-- What follows the last value that an array may hold; `start` is where that is. -/
def closeArray (start : Nat) : JsonItems → Except Fault Unit
  | .done => .ok ()
  | .more .. => .error ⟨.trailingText, start + 1⟩
  | .broken b =>
    match b.strict.cause with
    | .noArrayComma | .endInValue => .error ⟨.trailingText, b.strict.index⟩
    | _ => .error b.strict

/-- Takes a whole document. -/
def decodeDocument {α : Type} (decode : JsonTree → Except Fault α) (document : String) :
    Except LocatedFault α :=
  let (tree, trailing) := JsonReader.readRoot document
  match decode tree, trailing with
  | .ok result, none => .ok result
  | .ok _, some f | .error f, _ => .error (f.locate document)

end JsonTree

/-- Reads a document that holds any value. -/
def Json.parse (document : String) : Except LocatedFault Json :=
  JsonTree.decodeDocument (JsonTree.value containerRoom) document

end ScopeCheck
