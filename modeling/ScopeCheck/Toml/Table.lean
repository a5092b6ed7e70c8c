import ScopeCheck.Dictionary
import ScopeCheck.Number.Double

/-!
# Tables

A document builds up a table by headers and by keys with dots, and each part of it may be given
once.  `Table.change` follows the names of a path and makes the tables that are missing on it.

* A table that a header has named may not be named again; one that is there only for what is
  inside it may be named by a header once.
* Keys with dots may add to tables that have been made for such keys, and to no table that a
  header has named.
* A value, and be it a table between braces, is complete.
-/

namespace ScopeCheck.Toml

open ScopeCheck.Number

/-- A value; a date is the text that names it. -/
inductive Value
  | text (text : String)
  | whole (value : Int)
  | float (value : Double)
  | truth (value : Bool)
  | list (items : List Value)
  | table (members : List (String × Value))
  deriving Inhabited

/-- How a table has come about. -/
inductive Origin
  /-- Named by a header, or the whole document. -/
  | named
  /-- Made for a header with a longer path. -/
  | passed
  /-- Made for a key with dots. -/
  | dotted
  deriving DecidableEq, Inhabited, Repr

mutual

/-- What a key of a table that is being built holds. -/
inductive Item
  | value (value : Value)
  | table (table : Table)
  /-- Tables of one name: the last one, and those before it, the latest first. -/
  | tables (last : Table) (earlier : List Table)

/-- A table that is being built. -/
inductive Table
  | mk (origin : Origin) (members : List (String × Item))

end

instance : Inhabited Table := ⟨.mk .named []⟩

namespace Table

/-- How the table has come about. -/
def origin : Table → Origin
  | mk origin _ => origin

/-- The keys of the table and what they hold. -/
def members : Table → List (String × Item)
  | mk _ members => members

/-- The table before anything is known of it. -/
def empty : Table := mk .named []

/-- Sets what a key holds. -/
def set (t : Table) (key : String) (item : Item) : Table :=
  mk t.origin (Dictionary.insert key item t.members)

/-- Changes the table at a path.  `dotted` says whether the path belongs to a key. -/
def change (dotted : Bool) (f : Table → Option Table) (t : Table) : List String → Option Table
  | [] => f t
  | key :: path =>
    match Dictionary.find? key t.members with
    | none =>
      let made := mk (if dotted then .dotted else .passed) []
      (made.change dotted f path).map fun inside => t.set key (.table inside)
    | some (.value _) => none
    | some (.tables last earlier) =>
      (last.change dotted f path).map fun inside => t.set key (.tables inside earlier)
    | some (.table inside) =>
      if dotted && inside.origin = .named then none
      else (inside.change dotted f path).map fun inside => t.set key (.table inside)

/-- Adds a value under a new key.  `direct` says whether the key has no dots. -/
def add (direct : Bool) (key : String) (value : Value) (t : Table) : Option Table :=
  if (t.origin = .dotted) = direct then none
  else if (Dictionary.find? key t.members).isSome then none
  else some (t.set key (.value value))

/-- Adds a value under a path of keys, none of which is missing. -/
def addAt (path : List String) (value : Value) (t : Table) : Option Table :=
  match path.getLast? with
  | none => none
  | some key =>
    let inside := path.dropLast
    t.change true (add (inside = []) key value) inside

/-- Names a table by a header. -/
def name (key : String) (t : Table) : Option Table :=
  match Dictionary.find? key t.members with
  | none => some (t.set key (.table empty))
  | some (.table (.mk .passed members)) => some (t.set key (.table (mk .named members)))
  | some _ => none

/-- Starts a further table of one name. -/
def append (key : String) (t : Table) : Option Table :=
  match Dictionary.find? key t.members with
  | none => some (t.set key (.tables empty []))
  | some (.tables last earlier) => some (t.set key (.tables empty (last :: earlier)))
  | some _ => none

/-- Applies a header with a path of keys. -/
def header (start : String → Table → Option Table) (path : List String) (t : Table) :
    Option Table :=
  match path.getLast? with
  | none => none
  | some key => t.change false (start key) path.dropLast

end Table

mutual

/-- What a key holds, as a value. -/
def Item.toValue : Item → Value
  | .value v => v
  | .table t => .table t.toMembers
  | .tables last earlier => .list ((.table last.toMembers :: Table.values earlier).reverse)

/-- The keys of a table with their values. -/
def Table.toMembers : Table → List (String × Value)
  | .mk _ members => Item.values members

/-- Tables as values. -/
def Table.values : List Table → List Value
  | [] => []
  | t :: rest => .table t.toMembers :: Table.values rest

/-- What the keys of a table hold, as values. -/
def Item.values : List (String × Item) → List (String × Value)
  | [] => []
  | (key, item) :: rest => (key, item.toValue) :: Item.values rest

end

end ScopeCheck.Toml
