import ScopeCheck.Regex.Node

/-!
# How many characters a pattern can match

`Extent` bounds the length of a match.  Groups are entered through their numbers, so that calls
and references count with the group that they mean; a group that is entered from inside itself
can match any number of characters.
-/

namespace ScopeCheck.Regex

/-- Bounds on the number of characters of a match. -/
structure Extent where
  least : Nat
  /-- `none` when there is no bound. -/
  most : Option Nat
  /-- Whether some match has the least length for certain. -/
  sure : Bool
  deriving Inhabited, DecidableEq, Repr

namespace Extent

/-- Exactly this many characters. -/
def exactly (n : Nat) : Extent := ⟨n, some n, true⟩

/-- Any number of characters. -/
def unknown : Extent := ⟨0, none, false⟩

/-- One match behind the other. -/
def append (a b : Extent) : Extent :=
  ⟨a.least + b.least, a.most.bind fun m => b.most.map (m + ·), a.sure && b.sure⟩

/-- One match or the other. -/
def either (a b : Extent) : Extent :=
  ⟨min a.least b.least, a.most.bind fun m => b.most.map (max m ·),
    if a.least < b.least then a.sure else if b.least < a.least then b.sure else a.sure || b.sure⟩

/-- Between `low` and `high` matches in a row. -/
def repeated (low : Nat) (high : Option Nat) (a : Extent) : Extent :=
  let most := match a.most, high with
    | some 0, _ => some 0
    | some m, some h => some (m * h)
    | none, some 0 => some 0
    | _, _ => none
  ⟨a.least * low, most, a.sure || low == 0⟩

end Extent

/-- The extent of a node, given those of the groups. -/
def extentWith (enter : Nat → Extent) : Node → Extent
  | .string codes => .exactly codes.length
  | .foldedString codes => ⟨(codes.length + 2) / 3, some codes.length, false⟩
  | .one _ | .any _ => .exactly 1
  | .cat a b => (extentWith enter a).append (extentWith enter b)
  | .alt a b => (extentWith enter a).either (extentWith enter b)
  | .group index _ => enter index
  | .block a | .atomic a => extentWith enter a
  | .repeated low high _ _ a => (extentWith enter a).repeated low high
  | .backref groups _ =>
    match groups with
    | [] => .exactly 0
    | k :: rest =>
      let all := rest.foldl (fun e k => e.either (enter k)) (enter k)
      { all with sure := all.sure && all.most = some all.least }
  | .cond test yes no =>
    ((extentWith enter test).append (extentWith enter yes)).either (extentWith enter no)
  | .call (.number index) => enter index
  | .call (.name _) => .unknown
  | .without _ a => { extentWith enter a with least := 0, sure := false }
  | .empty => .exactly 0
  | .fail | .assertion _ | .ahead .. | .behind .. | .matched _ | .keep | .cut _ | .uncut =>
    ⟨0, some 0, false⟩

/-- The extent of a group; `open` holds the groups that are being entered. -/
def groupExtent (bodies : Array Node) : Nat → List Nat → Nat → Extent
  | 0, _, _ => .unknown
  | fuel + 1, entered, index =>
    if entered.contains index then .unknown
    else match bodies[index]? with
      | some body => extentWith (groupExtent bodies fuel (index :: entered)) body
      | none => .unknown

/-- The extent of a node in a pattern with these groups. -/
def Node.extent (bodies : Array Node) (n : Node) : Extent :=
  extentWith (groupExtent bodies (bodies.size + 1) []) n

end ScopeCheck.Regex
