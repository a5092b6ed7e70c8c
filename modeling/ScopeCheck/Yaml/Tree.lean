import ScopeCheck.Yaml.Node

/-!
# Trees without aliases

A `Tree` is a node in which every alias has been replaced by what it stands for.
`Tree.ofText?` reads a document; a text that holds nothing is a document without a tree.

* Sequences and mappings inside each other more than 128 deep are `refused`; so are aliases of a
  node for itself.
* So is an alias once 100 times as many have been replaced as there are nodes and ends of nodes.
* What is refused matters only to those who look at it.
-/

namespace ScopeCheck.Yaml

/-- A node without aliases. -/
inductive Tree
  | scalar (tag : Option String) (text : String) (plain : Bool)
  | sequence (tag : Option String) (items : List Tree)
  | mapping (tag : Option String) (pairs : List (Tree × Tree))
  | refused
  deriving Inhabited

namespace Node

mutual

/-- The nodes with an anchor, in the order of the text. -/
def anchored : Node → List (Nat × Node)
  | scalar anchor tag text plain =>
    anchor.toList.map fun a => (a, .scalar anchor tag text plain)
  | sequence anchor tag items =>
    (anchor.toList.map fun a => (a, .sequence anchor tag items)) ++ anchoredItems items
  | mapping anchor tag pairs =>
    (anchor.toList.map fun a => (a, .mapping anchor tag pairs)) ++ anchoredPairs pairs
  | .alias _ => []

/-- The items with an anchor, and what is inside the items. -/
def anchoredItems : List Node → List (Nat × Node)
  | [] => []
  | item :: items => item.anchored ++ anchoredItems items

/-- The keys and values with an anchor, and what is inside them. -/
def anchoredPairs : List (Node × Node) → List (Nat × Node)
  | [] => []
  | (key, value) :: pairs => key.anchored ++ value.anchored ++ anchoredPairs pairs

end

mutual

/-- The number of nodes; sequences and mappings count twice, for their ends. -/
def size : Node → Nat
  | scalar .. | .alias _ => 1
  | sequence _ _ items => 2 + itemsSize items
  | mapping _ _ pairs => 2 + pairsSize pairs

/-- The number of nodes in a list. -/
def itemsSize : List Node → Nat
  | [] => 0
  | item :: items => item.size + itemsSize items

/-- The number of nodes in a list of pairs. -/
def pairsSize : List (Node × Node) → Nat
  | [] => 0
  | (key, value) :: pairs => key.size + value.size + pairsSize pairs

end

/-- The node that a node stands for, and how many aliases may still be replaced.  Of several nodes
with one number the last is meant. -/
def resolved? (anchors : List (Nat × Node)) (left : Nat) : Node → Option (Node × Nat)
  | .alias number =>
    if left = 0 then none
    else (anchors.reverse.find? (·.1 = number)).map fun found => (found.2, left - 1)
  | node => some (node, left)

/-- Replaces the aliases in a node. -/
def expand (anchors : List (Nat × Node)) : Nat → Node → StateM Nat Tree
  | room, node => do
    match node.resolved? anchors (← get), room with
    | some (.scalar _ tag text plain, left), _ =>
      set left
      return .scalar tag text plain
    | some (.sequence _ tag items, left), room + 1 =>
      set left
      return .sequence tag (← items.mapM (expand anchors room))
    | some (.mapping _ tag pairs, left), room + 1 =>
      set left
      let pairs ← pairs.mapM fun p => do
        return (← expand anchors room p.1, ← expand anchors room p.2)
      return .mapping tag pairs
    | _, _ => return .refused

end Node

namespace Tree

/-- How deep sequences and mappings may stand inside each other. -/
def depthLimit : Nat := 128

/-- How many aliases may be replaced for each node. -/
def aliasLimit : Nat := 100

/-- A node without its aliases. -/
def ofNode (node : Node) : Tree :=
  (node.expand node.anchored depthLimit (aliasLimit * node.size)).1

/-- Reads a document; `some none` when it holds nothing. -/
def ofText? (text : String) : Option (Option Tree) := do
  let tokens ← scanTokens (← readable? text)
  return (← Node.ofTokens? tokens).map ofNode

end Tree

end ScopeCheck.Yaml
