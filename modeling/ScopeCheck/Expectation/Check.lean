import ScopeCheck.Json.Value

/-!
# Checks

A check addresses a line of a fixture and says which scopes it must or must not have.  Any value
can be read as a check: a field of the wrong kind is absent, or it is kept as invalid and fails
this check alone.
-/

namespace ScopeCheck

/-- A field that may be missing, usable, or there but of no use. -/
inductive Lenient (α : Type)
  | absent
  | value (v : α)
  /-- The text of the value that is there. -/
  | invalid (text : String)
  deriving DecidableEq, Inhabited, Repr

/-- Whether a field is missing. -/
def Lenient.isMissing {α : Type} : Lenient α → Bool
  | absent => true
  | _ => false

/-- What is said about one line of a fixture. -/
structure Check where
  /-- The first line that contains this text. -/
  containing : Option String
  /-- The line with this number. -/
  line : Lenient Nat
  /-- The first line that is not blank after the first one that contains this text. -/
  afterMatch : Option String
  /-- The first line that is not blank after the line with this number. -/
  afterLine : Lenient Nat
  /-- One of these must occur in a scope of the line. -/
  hasAny : Lenient (List String)
  /-- None of these may occur in a scope of the line. -/
  notHasAny : Lenient (List String)
  note : Option String
  deriving DecidableEq, Inhabited, Repr

namespace Check

/-- A field that holds a text. -/
def textField (v : Json) (key : String) : Option String := (v.member? key).bind Json.string?

/-- A field that holds the number of a line. -/
def lineField (v : Json) (key : String) : Lenient Nat :=
  match v.member? key with
  | some (.number n) =>
    match n.natural? with
    | some line => .value line
    | none => .invalid n.text
  | _ => .absent

/-- A field that holds a list of scopes. -/
def scopesField (v : Json) (key : String) : Lenient (List String) :=
  match v.member? key with
  | none | some .null => .absent
  | some (.array items) =>
    match items.mapM Json.string? with
    | some scopes => .value scopes
    | none => .invalid (Json.array items).compact
  | some other => .invalid other.compact

/-- Reads any value as a check. -/
def ofJson (v : Json) : Check where
  containing := textField v "match"
  line := lineField v "line"
  afterMatch := textField v "afterMatch"
  afterLine := lineField v "afterLine"
  hasAny := scopesField v "hasAny"
  notHasAny := scopesField v "notHasAny"
  note := textField v "note"

end Check

end ScopeCheck
