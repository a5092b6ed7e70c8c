import ScopeCheck.Text.Ranges
import ScopeCheck.Text.Property.Category
import ScopeCheck.Text.Property.Script
import ScopeCheck.Text.Property.Binary
import ScopeCheck.Text.Property.Block

/-!
# Character properties by name

Names are compared without blanks, hyphens, underscores and letter case.  A few names stand for
sets that are put together from others: these come first.
-/

namespace ScopeCheck.Text.Property

/-- The longest name that is looked up. -/
def nameLimit : Nat := 60

/-- A name without the characters that do not count; `none` when it cannot be a name. -/
def plainName? (name : List Char) : Option String :=
  let plain := name.filter fun c => c ≠ ' ' && c ≠ '-' && c ≠ '_'
  if name.all (fun c => c.toNat < 0x80) && plain.length < nameLimit then
    some (String.ofList (plain.map Char.toLower))
  else none

/-- The table text of a plain name. -/
def tableText? (name : String) : Option String :=
  let row? (rows : List (List String × String)) : Option String :=
    (rows.find? fun row => row.1.contains name).map (·.2)
  (row? categories).orElse fun _ => (row? scripts).orElse fun _ => (row? binaries).orElse fun _ =>
    row? blocks

/-- The code points of a plain name's table, or none. -/
def tableRanges (name : String) : Ranges := Ranges.decode ((tableText? name).getD "")

/-- The sets that are put together from tables: the tables that are joined, those that are taken
away, and further ranges.  With no joined table the set starts from all code points. -/
structure Recipe where
  joined : List String
  removed : List String
  extra : List (Nat × Nat)

/-- The recipe of a plain name. -/
def recipe? : String → Option Recipe
  | "any" => some ⟨[], [], [(0, 0x110000)]⟩
  | "assigned" => some ⟨[], ["cn"], []⟩
  | "ascii" => some ⟨["ahex"], [], [(0, 0x80)]⟩
  | "alnum" => some ⟨["alpha", "nd"], [], []⟩
  | "blank" => some ⟨["zs"], [], [(9, 10)]⟩
  | "graph" => some ⟨[], ["wspace", "cc", "cn", "cs"], []⟩
  | "print" => some ⟨[], ["zl", "zp", "cc", "cn", "cs"], []⟩
  | "punct" => some ⟨["p"], [], [(0x24, 0x25), (0x2B, 0x2C), (0x3C, 0x3F), (0x5E, 0x5F),
      (0x60, 0x61), (0x7C, 0x7D), (0x7E, 0x7F)]⟩
  | "xdigit" => some ⟨["ahex"], [], []⟩
  | "word" => some ⟨["alpha", "m", "nd", "pc"], [], []⟩
  | _ => none

/-- A property: unions of tables, less others. -/
structure Named where
  name : String
  joined : List Ranges
  removed : List Ranges
  deriving Inhabited, DecidableEq, Repr

/-- The property of a name, if there is one. -/
def find? (name : List Char) : Option Named := do
  let plain ← plainName? name
  match recipe? plain with
  | some r =>
    let base := if r.joined = [] && r.extra = [] then [⟨#[(0, 0x110000)]⟩] else []
    some ⟨plain, base ++ [⟨r.extra.toArray⟩] ++ r.joined.map tableRanges,
      r.removed.map tableRanges⟩
  | none =>
    let text ← tableText? plain
    some ⟨plain, [Ranges.decode text], []⟩

/-- Whether a code point has the property. -/
def Named.contains (p : Named) (code : Nat) : Bool :=
  p.joined.any (·.contains code) && !p.removed.any (·.contains code)

end ScopeCheck.Text.Property
