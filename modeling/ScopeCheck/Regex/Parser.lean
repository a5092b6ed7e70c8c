import ScopeCheck.Regex.Bracket
import ScopeCheck.Regex.Token

/-!
# Reading patterns

A recursive descent over tokens.  Each reader gets the token at which it starts and answers with
the token behind what it has read.

* `readAlternatives` reads branches up to the end of a group or of the pattern.
* `readBranch` reads items up to a bar.
* `readItem` reads one item with its repetitions, `readGroup` what stands in parentheses.
* `quantify` puts repetitions around an item.
-/

namespace ScopeCheck.Regex

open ScopeCheck.Text

/-- Where the reader stands: the rest of the pattern and the groups opened so far. -/
structure Cursor where
  src : List Char
  groups : Groups
  /-- The length of what stands behind the first token of the pattern. -/
  afterFirst : Nat
  /-- Whether options for the whole pattern have stood elsewhere than at its head. -/
  misplaced : Bool := false
  deriving Inhabited

/-- Something read, the token behind it, and where to go on. -/
structure Parsed (α : Type) where
  value : α
  token : Token
  cursor : Cursor

/-- Splits off the next token. -/
def Cursor.next (flags : Flags) (c : Cursor) : Except Error (Token × Cursor) := do
  let (token, rest) ← Token.next flags c.groups c.src
  return (token, { c with src := rest })

/-- The most groups that a pattern may have. -/
def groupLimit : Nat := 32767

/-- Opens a capture group. -/
def Cursor.openGroup (c : Cursor) : Except Error (Nat × Cursor) :=
  if c.groups.count < groupLimit then
    .ok (c.groups.count + 1, { c with groups := { c.groups with count := c.groups.count + 1 } })
  else .error .tooManyCaptures

/-- Gives a name to a group. -/
def Cursor.nameGroup (c : Cursor) (name : List Char) (index : Nat) : Cursor :=
  { c with groups := { c.groups with names := c.groups.names ++ [(name, index)] } }

/-- A node for literal text. -/
def literal (flags : Flags) (codes : List Nat) : Node :=
  if flags.ignoreCase then .foldedString (foldAll codes) else .string codes

/-- A node for one character of a bracket expression. -/
def bracketNode (flags : Flags) (negated : Bool) (members : CharSet) : Node :=
  if flags.ignoreCase then
    let plain := Node.one (CharSet.negatedIf negated (.folded members))
    if negated then plain
    else Node.alts (plain :: members.longVariants.map .foldedString)
  else .one (CharSet.negatedIf negated members)

/-- A line break of any kind. -/
def newlineNode : Node :=
  .atomic (.alt (.string [0x0D, 0x0A])
    (.one (CharSet.unions [.range 0x0A 0x0D, .range 0x85 0x85, .range 0x2028 0x2029])))

/-- What a reader sees as one character. -/
def clusterNode : Node :=
  .atomic (.cat (.any true)
    (.repeated 0 none true [] (.cat (.assertion .noClusterBoundary) (.any true))))

/-- Whether a repetition cannot be put behind a node. -/
def unrepeatable : Node → Bool
  | .assertion _ | .ahead .. | .behind .. | .keep | .fail => true
  | .alt a b => unrepeatable a || unrepeatable b
  | _ => false

/-- Puts one repetition around a node. -/
def repetition (low : Nat) (high : Option Nat) (greedy possessive : Bool) (target : Node) :
    Except Error Node :=
  if low = 1 ∧ high = some 1 then .ok target
  else
    let tooBig := match target with
      | .repeated inner (some innerHigh) _ _ _ =>
        high = some low && inner = innerHigh && low * inner > numberLimit
      | _ => false
    if tooBig then .error .repeatTooBig
    else
      let node := Node.repeated low high greedy [] target
      .ok (if possessive then .atomic node else node)

/-- Reads the repetitions behind an item. -/
def quantify (flags : Flags) : Nat → Nat → Node → Cursor → Except Error (Parsed Node)
  | 0, _, _, _ => .error .internal
  | fuel + 1, depth, target, cursor => do
    let (token, cursor) ← cursor.next flags
    match token with
    | .repetition low high greedy possessive =>
      if unrepeatable target then throw .cannotRepeat
      if depth + 1 > depthLimit then throw .tooDeep
      let node ← repetition low high greedy possessive target
      quantify flags fuel (depth + 1) node cursor
    | _ => return ⟨target, token, cursor⟩

/-- Collects the characters that follow directly. -/
def literalRun (flags : Flags) : Nat → List Nat → Token → Cursor →
    Except Error (List Nat × Token × Cursor)
  | fuel + 1, run, .char c, cursor => do
    let (token, cursor) ← cursor.next flags
    literalRun flags fuel (c.toNat :: run) token cursor
  | _, run, token, cursor => .ok (run.reverse, token, cursor)

/-- Reads the repetitions behind a run of characters; they take the last character only. -/
def quantifyRun (flags : Flags) (depth : Nat) (run : List Nat) (token : Token) (cursor : Cursor) :
    Except Error (Parsed Node) := do
  match token with
  | .repetition low high greedy possessive =>
    if depth + 1 > depthLimit then throw .tooDeep
    match run.getLast? with
    | some last =>
      let node ← repetition low high greedy possessive (literal flags [last])
      let tail ← quantify flags (cursor.src.length + 1) (depth + 1) node cursor
      match run.dropLast with
      | [] => return tail
      | front => return { tail with value := .cat (literal flags front) tail.value }
    | none => throw .internal
  | _ => return ⟨literal flags run, token, cursor⟩

/-- The options that a letter between `(?` and `)` or `:` changes. -/
def setOption (flags : Flags) (on : Bool) : Char → Option Flags
  | 'i' => some { flags with ignoreCase := on }
  | 'x' => some { flags with extended := on }
  | 'm' => some { flags with dotAll := on }
  | 'W' => some { flags with asciiWord := on }
  | 'D' => some { flags with asciiDigit := on }
  | 'S' => some { flags with asciiSpace := on }
  | 'P' => some { flags with asciiWord := on, asciiDigit := on, asciiSpace := on,
                             asciiPosix := on }
  | _ => none

/-- Options, and how they stand in the pattern. -/
structure OptionList where
  flags : Flags
  /-- Whether one of them concerns the whole pattern. -/
  whole : Bool
  /-- Whether a body follows, to which they are limited. -/
  hasBody : Bool
  rest : List Char

/-- Reads option letters; `whole` tells whether an option for the whole pattern has been read. -/
def readOptions (flags : Flags) (whole : Bool) : Bool → List Char → Except Error OptionList
  | _, [] => .error .endInGroup
  | _, ')' :: rest => .ok ⟨flags, whole, false, rest⟩
  | _, ':' :: rest => if whole then .error .groupOptionPlace else .ok ⟨flags, whole, true, rest⟩
  | _, '-' :: rest => readOptions flags whole false rest
  | on, 'y' :: rest =>
    if !on then .error .groupOption
    else match rest with
      | [] => .error .endInGroup
      | ['{'] => .error .endInGroup
      | '{' :: 'g' :: '}' :: rest | '{' :: 'w' :: '}' :: rest => readOptions flags whole on rest
      | ['{', 'g'] | ['{', 'w'] => .error .endInGroup
      | _ => .error .groupOption
  | on, 'C' :: rest =>
    if on then readOptions { flags with noCapture := true } true on rest
    else .error .groupOptionPlace
  | on, 'I' :: rest | on, 'L' :: rest =>
    if on then readOptions flags true on rest else .error .groupOptionPlace
  | on, c :: rest =>
    match setOption flags on c with
    | some flags => readOptions flags whole on rest
    | none => .error .groupOption

/-- The named conditions that never hold. -/
def failingCallouts : List String := ["FAIL", "MISMATCH", "ERROR"]

/-- The named conditions that are always let through. -/
def passingCallouts : List String := ["MAX", "COUNT", "TOTAL_COUNT", "CMP", "SKIP"]

/-- Reads `NAME)` or `NAME{..})` behind `(*`. -/
def readCallout (src : List Char) : Except Error (Node × List Char) := do
  let (name, rest) := Numeral.spanWhile (fun c => c ≠ ')' && c ≠ '[' && c ≠ '{') src
  let plain := name.all fun c => c.toNat < 0x80 && isWord c.toNat
  let body : Except Error (List Char) :=
    match rest with
    | ')' :: rest => .ok rest
    | _ :: rest =>
      match (rest.dropWhile (fun c => c ≠ ')')) with
      | ')' :: rest => .ok rest
      | _ => .error .calloutPattern
    | [] => .error .calloutPattern
  if rest = [] then throw .calloutPattern
  if name = [] || !plain || (name.head?.map Numeral.isDecimal).getD false then throw .calloutName
  let rest ← body
  let text := String.ofList name
  if failingCallouts.contains text then return (.fail, rest)
  if passingCallouts.contains text then return (.empty, rest)
  throw .calloutUndefined

/-- Skips the braces of an embedded remark, behind `(?`. -/
def readRemark (src : List Char) : Except Error (List Char) :=
  let (opened, inside) := Numeral.spanWhile (· = '{') src
  let rec find : Nat → List Char → Except Error (List Char)
    | 0, _ | _, [] => .error .calloutPattern
    | fuel + 1, c :: rest =>
      if (List.replicate opened.length '}').isPrefixOf (c :: rest) then
        match (c :: rest).drop opened.length with
        | [] => .error .endInGroup
        | ')' :: rest => .ok rest
        | _ => .error .calloutPattern
      else find fuel rest
  find (inside.length + 1) inside

/-- Whether an expression repeats a single character, so that it can be cut short in place. -/
def simpleRepeat? : Node → Option (Nat × Option Nat × Bool × Node)
  | .atomic (.repeated low high true _ body) =>
    if simple body then some (low, high, true, body) else none
  | .repeated low high true _ body => if simple body then some (low, high, false, body) else none
  | _ => none
where
  /-- A node that matches one character. -/
  simple : Node → Bool
    | .string [_] => true
    | .one _ | .any _ => true
    | _ => false

/-- A part in which another expression starts nowhere. -/
def withoutNode (absent : Node) (body : Option Node) : Node :=
  match body with
  | none => .repeated 0 none true [] (.cat (.ahead true absent) (.any true))
  | some body =>
    match simpleRepeat? body with
    | some (low, high, possessive, one) =>
      let node := Node.repeated low high true [] (.cat (.ahead true absent) one)
      if possessive then .atomic node else node
    | none => .without absent body

/-- What parentheses stand for. -/
inductive GroupKind
  /-- A part of the pattern. -/
  | part (node : Node)
  /-- Options for what follows up to the end of the enclosing group. -/
  | options (flags : Flags)

/-- Whether a token ends a branch. -/
def endsBranch (inGroup : Bool) (token : Token) : Bool :=
  token = .endOfPattern || token = .bar || (inGroup && token = .closing)

/-- Reads the bytes of a character behind its first ones. -/
def moreBytes (flags : Flags) : Nat → List Nat → Cursor → Except Error (List Nat × Token × Cursor)
  | 0, bytes, cursor => do
    let (token, cursor) ← cursor.next flags
    return (bytes, token, cursor)
  | count + 1, bytes, cursor => do
    match ← cursor.next flags with
    | (.byte value _, cursor) => moreBytes flags count (bytes ++ [value]) cursor
    | _ => throw .shortBytes

/-- Puts the bytes of one character together. -/
def readByteRun (flags : Flags) (first : Nat) (cursor : Cursor) :
    Except Error (Nat × Token × Cursor) := do
  let (bytes, token, cursor) ← moreBytes flags (charLength first - 1) [first] cursor
  match bytesCode? bytes with
  | some code => return (code, token, cursor)
  | none => throw .codePoint

mutual

/-- Reads branches up to the end of the group (`inGroup`) or of the pattern. -/
def readAlternatives : Nat → Flags → Bool → Nat → Token → Cursor →
    Except Error (Parsed (List Node))
  | 0, _, _, _, _, _ => .error .internal
  | fuel + 1, flags, inGroup, depth, token, cursor => do
    if depth > depthLimit then throw .tooDeep
    let branch ← readBranch fuel flags inGroup depth token cursor
    match branch.token with
    | .bar =>
      let (token, cursor) ← branch.cursor.next flags
      let more ← readAlternatives fuel flags inGroup depth token cursor
      return { more with value := branch.value :: more.value }
    | token =>
      if token = (if inGroup then .closing else .endOfPattern) then
        return ⟨[branch.value], token, branch.cursor⟩
      else if inGroup then throw .unclosedGroup
      else throw .internal

/-- Reads items up to a bar or the end. -/
def readBranch : Nat → Flags → Bool → Nat → Token → Cursor → Except Error (Parsed Node)
  | 0, _, _, _, _, _ => .error .internal
  | fuel + 1, flags, inGroup, depth, token, cursor => do
    let item ← readItem fuel flags inGroup depth token cursor
    if endsBranch inGroup item.token then return item
    let more ← readBranch fuel flags inGroup depth item.token item.cursor
    return { more with value := .cat item.value more.value }

/-- Reads one item with its repetitions. -/
def readItem : Nat → Flags → Bool → Nat → Token → Cursor → Except Error (Parsed Node)
  | 0, _, _, _, _, _ => .error .internal
  | fuel + 1, flags, inGroup, depth, token, cursor => do
    let finish (node : Node) (cursor : Cursor) : Except Error (Parsed Node) :=
      quantify flags (cursor.src.length + 1) depth node cursor
    match token with
    | .endOfPattern | .bar => return ⟨.empty, token, cursor⟩
    | .closing => if inGroup then return ⟨.empty, token, cursor⟩ else throw .unopenedGroup
    | .opening =>
      let (kind, cursor) ← readGroup fuel flags depth cursor
      match kind with
      | .part node => finish node cursor
      | .options changed =>
        let (token, cursor) ← cursor.next changed
        let body ← readAlternatives fuel changed inGroup (depth + 1) token cursor
        return ⟨.block (Node.alts body.value), body.token, body.cursor⟩
    | .char _ =>
      let (run, token, cursor) ← literalRun flags (cursor.src.length + 2) [] token cursor
      quantifyRun flags depth run token cursor
    | .byte value _ =>
      let (code, token, cursor) ← readByteRun flags value cursor
      quantifyRun flags depth [code] token cursor
    | .codes codes =>
      let (token, cursor) ← cursor.next flags
      quantifyRun flags depth codes token cursor
    | .dot => finish (.any flags.dotAll) cursor
    | .set members => finish (.one members) cursor
    | .property negated =>
      let (members, rest) ← propertySet cursor.src
      finish (.one (CharSet.negatedIf negated members)) { cursor with src := rest }
    | .bracket =>
      let result ← readClass flags (2 * cursor.src.length + 4) (depth + 1) cursor.src
      finish (bracketNode flags result.negated result.set) { cursor with src := result.rest }
    | .backref groups => finish (.backref groups.reverse flags.ignoreCase) cursor
    | .call callee => finish (.call callee) cursor
    | .assertion a => finish (.assertion a) cursor
    | .repetition .. => throw .nothingToRepeat
    | .keep => finish .keep cursor
    | .newline => finish newlineNode cursor
    | .noNewline => finish (.any false) cursor
    | .anyAtAll => finish (.any true) cursor
    | .cluster => finish clusterNode cursor

/-- Reads the branches of a group up to its closing parenthesis. -/
def readBody : Nat → Flags → Nat → Cursor → Except Error (List Node × Cursor)
  | 0, _, _, _ => .error .internal
  | fuel + 1, flags, depth, cursor => do
    let (token, cursor) ← cursor.next flags
    let parsed ← readAlternatives fuel flags true (depth + 1) token cursor
    return (parsed.value, parsed.cursor)

/-- Reads what stands behind an opening parenthesis, up to its closing one. -/
def readGroup : Nat → Flags → Nat → Cursor → Except Error (GroupKind × Cursor)
  | 0, _, _, _ => .error .internal
  | fuel + 1, flags, depth, cursor => do
    let wrapped (wrap : Node → Node) (src : List Char) :
        Except Error (GroupKind × Cursor) := do
      let (nodes, cursor) ← readBody fuel flags depth { cursor with src }
      return (.part (wrap (Node.alts nodes)), cursor)
    let named (closing : Char) (src : List Char) : Except Error (GroupKind × Cursor) := do
      let (name, rest) ← definedName closing src
      let (index, cursor) ← ({ cursor with src := rest } : Cursor).openGroup
      let (nodes, cursor) ← readBody fuel flags depth (cursor.nameGroup name index)
      return (.part (.group index (Node.alts nodes)), cursor)
    match cursor.src with
    | [] => throw .unclosedGroup
    | ['?'] => throw .endInGroup
    | '?' :: ':' :: src => wrapped id src
    | '?' :: '=' :: src => wrapped (.ahead false) src
    | '?' :: '!' :: src => wrapped (.ahead true) src
    | '?' :: '>' :: src => wrapped .atomic src
    | '?' :: '\'' :: src => named '\'' src
    | ['?', '<'] => throw .unclosedGroup
    | '?' :: '<' :: '=' :: src => wrapped (.behind false 0 none) src
    | '?' :: '<' :: '!' :: src => wrapped (.behind true 0 none) src
    | '?' :: '<' :: src => named '>' src
    | ['?', '~'] | ['?', '~', '|'] => throw .endInGroup
    | '?' :: '~' :: '|' :: ')' :: src => return (.part .uncut, { cursor with src })
    | '?' :: '~' :: '|' :: src =>
      let (nodes, cursor) ← readBody fuel flags depth { cursor with src }
      match nodes with
      | [absent] => return (.part (.cut absent), cursor)
      | absent :: rest =>
        return (.part (.block (withoutNode absent (some (Node.alts rest)))), cursor)
      | [] => throw .internal
    | '?' :: '~' :: src =>
      let (nodes, cursor) ← readBody fuel flags depth { cursor with src }
      return (.part (.block (withoutNode (Node.alts nodes) none)), cursor)
    | '?' :: '{' :: src =>
      return (.part .empty, { cursor with src := ← readRemark ('{' :: src) })
    | '?' :: '(' :: src =>
      let (node, cursor) ← readConditional fuel flags depth { cursor with src }
      return (.part node, cursor)
    | '?' :: c :: src =>
      if "-imxsWDSPyILC".toList.contains c then
        let options ← readOptions flags false true (c :: src)
        if options.hasBody then
          let (nodes, cursor) ←
            readBody fuel options.flags depth { cursor with src := options.rest }
          return (.part (.block (Node.alts nodes)), cursor)
        else
          let misplaced := options.whole && cursor.src.length ≠ cursor.afterFirst
          return (.options options.flags,
            { cursor with src := options.rest, misplaced := cursor.misplaced || misplaced })
      else throw .groupOption
    | '*' :: src =>
      let (node, rest) ← readCallout src
      return (.part node, { cursor with src := rest })
    | _ =>
      if flags.noCapture then wrapped id cursor.src
      else
        let (index, cursor) ← cursor.openGroup
        let (nodes, cursor) ← readBody fuel flags depth cursor
        return (.part (.group index (Node.alts nodes)), cursor)

/-- Reads a conditional behind `(?(`. -/
def readConditional : Nat → Flags → Nat → Cursor → Except Error (Node × Cursor)
  | 0, _, _, _ => .error .internal
  | fuel + 1, flags, depth, cursor => do
    match cursor.src with
    | [] | [_] => throw .endInGroup
    | first :: tail =>
      let expression : Except Error (Node × Cursor) := do
        let (nodes, cursor) ← readBody fuel flags depth cursor
        return (Node.alts nodes, cursor)
      let checker (ref : GroupRef) (rest : List Char) : Except Error (Node × Cursor) := do
        return (.matched (← Token.refGroups cursor.groups ref), { cursor with src := rest })
      let (test, isChecker, cursor) ←
        if first = '<' || first = '\'' then do
          let (ref, rest) ← groupRef true (Token.nameClosing first) tail
          let (test, _) ← checker ref rest
          match rest with
          | ')' :: rest => pure (test, true, { cursor with src := rest })
          | _ => throw .endInGroup
        else if Numeral.isDecimal first || first = '-' || first = '+' then
          match groupRef true ')' (first :: tail) with
          | .ok (ref, rest) => do
            let (test, cursor) ← checker ref rest
            pure (test, true, cursor)
          | .error _ => do
            let (test, cursor) ← expression
            pure (test, false, cursor)
        else if first = '*' then do
          let (node, rest) ← readCallout tail
          pure (node, false, { cursor with src := rest })
        else if first = '?' && tail.head? = some '{' then do
          pure (.empty, false, { cursor with src := ← readRemark tail })
        else do
          let (test, cursor) ← expression
          pure (test, false, cursor)
      match cursor.src with
      | [] => throw .endInGroup
      | ')' :: rest =>
        if isChecker then return (test, { cursor with src := rest }) else throw .condition
      | '|' :: rest =>
        let (nodes, cursor) ← readBody fuel flags depth { cursor with src := rest }
        return (.cond test .empty (Node.alts nodes), cursor)
      | _ =>
        let (nodes, cursor) ← readBody fuel flags depth cursor
        match nodes with
        | yes :: no :: rest => return (.cond test yes (Node.alts (no :: rest)), cursor)
        | [yes] => return (.cond test yes .empty, cursor)
        | [] => throw .internal

end

/-- Reads a whole pattern. -/
def readPattern (src : List Char) : Except Error (Node × Groups) := do
  let flags : Flags := {}
  let (token, rest) ← Token.next flags ⟨0, []⟩ src
  let cursor : Cursor := ⟨rest, ⟨0, []⟩, rest.length, false⟩
  let parsed ← readAlternatives (8 * src.length + 16) flags false 1 token cursor
  if parsed.cursor.misplaced then throw .groupOptionPlace
  return (Node.alts parsed.value, parsed.cursor.groups)

end ScopeCheck.Regex
