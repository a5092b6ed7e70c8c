import ScopeCheck.Regex.CharSet
import ScopeCheck.Regex.Error

/-!
# Patterns as trees

A pattern is read into a `Node`; `Regex` keeps the tree with the names and bodies of its groups.
Options such as case folding are worked into the nodes, so that a node has one meaning wherever
it stands.
-/

namespace ScopeCheck.Regex

/-- Conditions on a position. -/
inductive Assertion
  | lineStart
  | lineEnd
  | textStart
  | textEnd
  | textEndOrNewline
  | searchStart
  | wordBoundary (inside : CharSet)
  | noWordBoundary (inside : CharSet)
  | clusterBoundary
  | noClusterBoundary
  deriving Inhabited, DecidableEq, Repr

/-- Which group a call means. -/
inductive Callee
  | number (index : Nat)
  | name (name : List Char)
  deriving Inhabited, DecidableEq, Repr

/-- A pattern. -/
inductive Node
  /-- Matches the empty text. -/
  | empty
  /-- Matches nothing. -/
  | fail
  /-- These code points. -/
  | string (codes : List Nat)
  /-- A text with this case folding. -/
  | foldedString (codes : List Nat)
  /-- One character of a set. -/
  | one (set : CharSet)
  /-- Any one character; the line feed only if `newline`. -/
  | any (newline : Bool)
  | cat (first second : Node)
  | alt (first second : Node)
  /-- A capture group. -/
  | group (index : Nat) (body : Node)
  /-- A bracketed part that can be repeated whatever stands in it. -/
  | block (body : Node)
  /-- No way back into the body once it has matched. -/
  | atomic (body : Node)
  /-- A repetition.  A round that matches nothing is the last one, unless it changes one of the
  groups `watched`. -/
  | repeated (low : Nat) (high : Option Nat) (greedy : Bool) (watched : List Nat) (body : Node)
  | assertion (a : Assertion)
  | ahead (negative : Bool) (body : Node)
  /-- The body ends here and starts between `shortest` and `longest` characters before. -/
  | behind (negative : Bool) (shortest : Nat) (longest : Option Nat) (body : Node)
  /-- The text of the first of these groups that fits. -/
  | backref (groups : List Nat) (folded : Bool)
  /-- Whether one of these groups has matched. -/
  | matched (groups : List Nat)
  | cond (test yes no : Node)
  | call (callee : Callee)
  /-- The match starts here. -/
  | keep
  /-- The body, within the longest range in which `absent` starts nowhere. -/
  | without (absent body : Node)
  /-- From here on the text ends where `absent` starts first. -/
  | cut (absent : Node)
  /-- The text ends at its end again. -/
  | uncut
  deriving Inhabited, DecidableEq, Repr

namespace Node

/-- The sequence of a list of nodes. -/
def cats : List Node → Node
  | [] => empty
  | [n] => n
  | n :: rest => cat n (cats rest)

/-- The alternatives of a non-empty list of nodes. -/
def alts : List Node → Node
  | [] => empty
  | [n] => n
  | n :: rest => alt n (alts rest)

/-- The number of constructors of a tree and of the code points in it. -/
def size : Node → Nat
  | string codes | foldedString codes => codes.length + 1
  | cat a b | alt a b | without a b => a.size + b.size + 1
  | group _ a | block a | atomic a | repeated _ _ _ _ a | ahead _ a | behind _ _ _ a | cut a =>
    a.size + 1
  | cond a b c => a.size + b.size + c.size + 1
  | _ => 1

/-- The capture groups of a tree with their bodies, in the order in which they close. -/
def groups : Node → List (Nat × Node)
  | group index a => a.groups ++ [(index, a)]
  | cat a b | alt a b | without a b => a.groups ++ b.groups
  | block a | atomic a | repeated _ _ _ _ a | ahead _ a | behind _ _ _ a | cut a => a.groups
  | cond a b c => a.groups ++ b.groups ++ c.groups
  | _ => []

/-- The groups that are looked at again after they have matched, once for each reference. -/
def referred : Node → List Nat
  | backref groups _ | matched groups => groups
  | group _ a | block a | atomic a | repeated _ _ _ _ a | ahead _ a | behind _ _ _ a | cut a =>
    a.referred
  | cat a b | alt a b | without a b => a.referred ++ b.referred
  | cond a b c => a.referred ++ b.referred ++ c.referred
  | _ => []

/-- The calls in a tree, from left to right. -/
def calls : Node → List Callee
  | call callee => [callee]
  | group _ a | block a | atomic a | repeated _ _ _ _ a | ahead _ a | behind _ _ _ a | cut a =>
    a.calls
  | cat a b | alt a b | without a b => a.calls ++ b.calls
  | cond a b c => a.calls ++ b.calls ++ c.calls
  | _ => []

end Node

/-- The numbers of the groups of a name. -/
def groupsNamed (names : List (List Char × Nat)) (name : List Char) : List Nat :=
  (names.filter (·.1 = name)).map (·.2)

end ScopeCheck.Regex

namespace ScopeCheck

/-- A pattern that can be searched for. -/
structure Regex where
  root : Regex.Node
  /-- The number of capture groups. -/
  groupCount : Nat
  /-- The names of groups with their numbers, in the order of the pattern. -/
  names : List (List Char × Nat)
  /-- The bodies of the groups by number; number 0 is the whole pattern. -/
  bodies : Array Regex.Node
  deriving Inhabited

end ScopeCheck
