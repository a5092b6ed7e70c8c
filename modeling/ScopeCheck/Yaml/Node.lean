import ScopeCheck.Dictionary
import ScopeCheck.Yaml.Token

/-!
# Nodes

A `Node` is a scalar, a sequence or a mapping, or an alias for a node that has an anchor.
`Node.ofTokens?` reads the only node of a document; a text without any token has none.

* Anchors are numbered: the number of one is how many different names there were before it.
* A value or a key that is left out is an empty scalar.
* Every step down consumes a token or is followed by one that does, so that the number of tokens
  bounds the depth.
-/

namespace ScopeCheck.Yaml

/-- A part of a document, with the number of its anchor and with its tag. -/
inductive Node
  | scalar (anchor : Option Nat) (tag : Option String) (text : String) (plain : Bool)
  | sequence (anchor : Option Nat) (tag : Option String) (items : List Node)
  | mapping (anchor : Option Nat) (tag : Option String) (pairs : List (Node × Node))
  | alias (number : Nat)
  deriving Inhabited

/-- Tokens whose anchors are numbers. -/
abbrev Tokens := List (Token Nat)

/-- Numbers the anchors; an alias has the number of the latest anchor of its name. -/
def numberAnchors (names : List (String × Nat)) : List (Token String) → Option Tokens
  | [] => some []
  | t :: rest =>
    match t with
    | .anchor name =>
      let number := names.length
      (numberAnchors (Dictionary.insert name number names) rest).map (.anchor number :: ·)
    | .alias name => do
      let number ← Dictionary.find? name names
      return .alias number :: (← numberAnchors names rest)
    | .mark m => (numberAnchors names rest).map (.mark m :: ·)
    | .directive d => (numberAnchors names rest).map (.directive d :: ·)
    | .tag t => (numberAnchors names rest).map (.tag t :: ·)
    | .scalar text plain => (numberAnchors names rest).map (.scalar text plain :: ·)

namespace Node

/-- What stands where nothing is written. -/
def empty : Node := .scalar none none "" true

/-- What may stand before a node. -/
structure Properties where
  anchor : Option Nat
  tag : Option String

/-- The tag that a handle and a suffix stand for. -/
def resolveTag (handles : List (String × String)) (t : RawTag) : Option String :=
  if t.handle = "" then some t.suffix
  else (Dictionary.find? t.handle handles).map (· ++ t.suffix)

/-- Reads what stands before a node: an anchor and a tag in either order. -/
def properties (handles : List (String × String)) : Tokens → Option (Properties × Tokens)
  | .anchor a :: .tag t :: rest | .tag t :: .anchor a :: rest => do
    return (⟨some a, some (← resolveTag handles t)⟩, rest)
  | .anchor a :: rest => some (⟨some a, none⟩, rest)
  | .tag t :: rest => do return (⟨none, some (← resolveTag handles t)⟩, rest)
  | rest => some (⟨none, none⟩, rest)

/-- A node that is left out behind an anchor or a tag. -/
def emptyWith (p : Properties) (rest : Tokens) : Option (Node × Tokens) :=
  if p.anchor.isSome || p.tag.isSome then some (.scalar p.anchor p.tag "" true, rest) else none

/-- A scalar; the tag `!` says nothing. -/
def ofScalar (p : Properties) (text : String) (plain : Bool) : Node :=
  if p.tag = some "!" then .scalar p.anchor none text true else .scalar p.anchor p.tag text plain

/-- Whether the next token is one of these marks. -/
def startsWith (marks : List Mark) : Tokens → Bool
  | .mark m :: _ => marks.contains m
  | _ => false

/-- Reads what `read` reads, or nothing when one of the marks follows. -/
def leftOutOr (marks : List Mark) (read : Tokens → Option (Node × Tokens)) (ts : Tokens) :
    Option (Node × Tokens) :=
  if startsWith marks ts then some (empty, ts) else read ts

/-- Reads the value behind a colon, or nothing. -/
def valueOf (marks : List Mark) (read : Tokens → Option (Node × Tokens)) :
    Tokens → Option (Node × Tokens)
  | .mark .value :: rest => leftOutOr marks read rest
  | ts => some (empty, ts)

/-- The comma before an item that is not the first. -/
def afterSeparator (first : Bool) (ts : Tokens) : Option Tokens :=
  match first, ts with
  | true, ts => some ts
  | false, .mark .separator :: rest => some rest
  | false, _ => none

mutual

/-- Reads a node.  `block` says whether it may be a block, and `flat` whether it may be a sequence
that is not indented. -/
def read (handles : List (String × String)) (block flat : Bool) :
    Nat → Tokens → Option (Node × Tokens)
  | 0, _ => none
  | _ + 1, .alias n :: rest => some (.alias n, rest)
  | fuel + 1, ts => do
    let (p, rest) ← properties handles ts
    match rest with
    | .scalar text plain :: rest => return (ofScalar p text plain, rest)
    | .mark .openSequence :: rest =>
      let (items, rest) ← readFlowItems handles true fuel rest
      return (.sequence p.anchor p.tag items, rest)
    | .mark .openMapping :: rest =>
      let (pairs, rest) ← readFlowPairs handles true fuel rest
      return (.mapping p.anchor p.tag pairs, rest)
    | .mark .item :: _ =>
      if flat then
        let (items, rest) ← readFlatItems handles fuel rest
        return (.sequence p.anchor p.tag items, rest)
      else emptyWith p rest
    | .mark .blockSequence :: inside =>
      if block then
        let (items, rest) ← readItems handles fuel inside
        return (.sequence p.anchor p.tag items, rest)
      else emptyWith p rest
    | .mark .blockMapping :: inside =>
      if block then
        let (pairs, rest) ← readPairs handles fuel inside
        return (.mapping p.anchor p.tag pairs, rest)
      else emptyWith p rest
    | _ => emptyWith p rest

/-- Reads the items of a block. -/
def readItems (handles : List (String × String)) : Nat → Tokens → Option (List Node × Tokens)
  | fuel + 1, .mark .item :: rest => do
    let (item, rest) ← leftOutOr [.item, .blockEnd] (read handles true false fuel) rest
    let (items, rest) ← readItems handles fuel rest
    return (item :: items, rest)
  | _ + 1, .mark .blockEnd :: rest => some ([], rest)
  | _, _ => none

/-- Reads the items of a sequence that is not indented. -/
def readFlatItems (handles : List (String × String)) : Nat → Tokens → Option (List Node × Tokens)
  | 0, _ => none
  | fuel + 1, .mark .item :: rest => do
    let (item, rest) ←
      leftOutOr [.item, .key, .value, .blockEnd] (read handles true false fuel) rest
    let (items, rest) ← readFlatItems handles fuel rest
    return (item :: items, rest)
  | _ + 1, ts => some ([], ts)

/-- Reads the keys and values of a block. -/
def readPairs (handles : List (String × String)) :
    Nat → Tokens → Option (List (Node × Node) × Tokens)
  | fuel + 1, .mark .key :: rest => do
    let ends : List Mark := [.key, .value, .blockEnd]
    let (key, rest) ← leftOutOr ends (read handles true true fuel) rest
    let (value, rest) ← valueOf ends (read handles true true fuel) rest
    let (pairs, rest) ← readPairs handles fuel rest
    return ((key, value) :: pairs, rest)
  | _ + 1, .mark .blockEnd :: rest => some ([], rest)
  | _, _ => none

/-- Reads the items between brackets.  A key among them is a mapping of its own; where it is left
out, the token behind it is passed over. -/
def readFlowItems (handles : List (String × String)) (first : Bool) :
    Nat → Tokens → Option (List Node × Tokens)
  | 0, _ => none
  | _ + 1, .mark .closeSequence :: rest => some ([], rest)
  | fuel + 1, ts => do
    let ends : List Mark := [.separator, .closeSequence]
    match ← afterSeparator first ts with
    | .mark .closeSequence :: rest => return ([], rest)
    | .mark .key :: rest =>
      let (key, rest) ←
        if startsWith (.value :: ends) rest then some (empty, rest.tail)
        else read handles false false fuel rest
      let (value, rest) ← valueOf ends (read handles false false fuel) rest
      let (items, rest) ← readFlowItems handles false fuel rest
      return (.mapping none none [(key, value)] :: items, rest)
    | rest =>
      let (item, rest) ← read handles false false fuel rest
      let (items, rest) ← readFlowItems handles false fuel rest
      return (item :: items, rest)

/-- Reads the keys and values between braces. -/
def readFlowPairs (handles : List (String × String)) (first : Bool) :
    Nat → Tokens → Option (List (Node × Node) × Tokens)
  | 0, _ => none
  | _ + 1, .mark .closeMapping :: rest => some ([], rest)
  | fuel + 1, ts => do
    let ends : List Mark := [.separator, .closeMapping]
    match ← afterSeparator first ts with
    | .mark .closeMapping :: rest => return ([], rest)
    | .mark .key :: rest =>
      let (key, rest) ← leftOutOr (.value :: ends) (read handles false false fuel) rest
      let (value, rest) ← valueOf ends (read handles false false fuel) rest
      let (pairs, rest) ← readFlowPairs handles false fuel rest
      return ((key, value) :: pairs, rest)
    | rest =>
      let (key, rest) ← read handles false false fuel rest
      let (pairs, rest) ← readFlowPairs handles false fuel rest
      return ((key, empty) :: pairs, rest)

end

/-- What the directives before a document say: whether there is a version, and the handles. -/
structure Directives where
  version : Bool
  handles : List (String × String)

/-- Reads the directives before a document.  Versions 1.1 and 1.2 are known; nothing may be said
twice. -/
def readDirectives (d : Directives) : Tokens → Option (Directives × Tokens)
  | .directive (.version major minor) :: rest =>
    if d.version || major ≠ 1 || (minor ≠ 1 && minor ≠ 2) then none
    else readDirectives { d with version := true } rest
  | .directive (.handle name stands) :: rest =>
    if (Dictionary.find? name d.handles).isSome then none
    else readDirectives { d with handles := (name, stands) :: d.handles } rest
  | rest => some (d, rest)

/-- The handles that need no directive. -/
def commonHandles : List (String × String) := [("!", "!"), ("!!", "tag:yaml.org,2002:")]

/-- Passes over the marks at the end of a document; nothing may follow. -/
def atEnd (ts : Tokens) : Bool := ts.all (· = .mark .documentEnd)

/-- Reads the node of a document that starts with a mark. -/
def readMarked (fuel : Nat) (ts : Tokens) : Option (Node × Tokens) := do
  let (d, rest) ← readDirectives ⟨false, []⟩ ts
  match rest with
  | .mark .documentStart :: rest =>
    match rest with
    | [] | .directive _ :: _ => return (empty, rest)
    | _ =>
      let handles := d.handles ++ commonHandles
      leftOutOr [.documentStart, .documentEnd] (read handles true false fuel) rest
  | _ => none

/-- Reads the only node of a document; `some none` when there is nothing. -/
def ofTokens? (tokens : List (Token String)) : Option (Option Node) := do
  let ts ← numberAnchors [] tokens
  let fuel := 2 * ts.length + 2
  match ts with
  | [] => return none
  | t :: _ =>
    let marked := match t with
      | .directive _ | .mark .documentStart => true
      | _ => false
    let (node, rest) ←
      if marked then readMarked fuel ts else read commonHandles true false fuel ts
    if atEnd rest then return some node else none

end Node

end ScopeCheck.Yaml
