import ScopeCheck.Regex.Escape
import ScopeCheck.Regex.Flags

/-!
# Bracket expressions

Reads a bracket expression after its opening bracket: single characters, ranges, character
types, sets by name, nested brackets and intersections.

* `ClassToken.next` splits off the next part.
* `ClassState.value` and `ClassState.type` add a character or a type to what has been read.
* `readClass` runs over the whole expression.
-/

namespace ScopeCheck.Regex

open ScopeCheck.Text

/-- The parts of a bracket expression. -/
inductive ClassToken
  | char (code : Nat)
  /-- A byte that is spelled in octal or in hexadecimal. -/
  | byte (value : Nat) (octal : Bool)
  | codes (items : List CodeItem)
  | type (set : CharSet)
  /-- A property, whose name follows. -/
  | property (negated : Bool)
  /-- `[:`, after which a name may follow; `after` stands behind the bracket. -/
  | named (after : List Char)
  | nested
  | both
  | dash
  | close
  | endOfPattern
  deriving Repr

/-- Whether `:]` comes before a closing bracket that is not escaped. -/
def closesNamed : List Char → Bool
  | ':' :: ']' :: _ => true
  | '\\' :: _ :: rest => closesNamed rest
  | ']' :: _ => false
  | _ :: rest => closesNamed rest
  | [] => false

/-- Whether a closing bracket comes that is not escaped. -/
def hasClosing : List Char → Bool
  | '\\' :: _ :: rest => hasClosing rest
  | ']' :: _ => true
  | _ :: rest => hasClosing rest
  | [] => false

/-- The part of a bracket expression that a backslash starts. -/
def ClassToken.escaped (flags : Flags) (src : List Char) :
    Except Error (ClassToken × List Char) := do
  match src with
  | [] => throw .endAtEscape
  | c :: rest =>
    match flags.typeSet? c with
    | some set => return (.type set, rest)
    | none =>
      let value : Except Error (ClassToken × List Char) :=
        (escapedValue (src.length + 1) src).map fun (code, rest) => (.char code, rest)
      if c = 'p' || c = 'P' then
        match rest with
        | '{' :: '^' :: rest => return (.property (c = 'p'), rest)
        | '{' :: rest => return (.property (c = 'P'), rest)
        | _ => return (.char c.toNat, rest)
      else if c = 'x' then
        match rest with
        | [] => return (.char c.toNat, rest)
        | '{' :: inside =>
          match ← bracedCodes true true inside with
          | some (items, rest) => return (.codes items, rest)
          | none => return (.char c.toNat, rest)
        | _ =>
          let (code, rest, _) ← hexCode 2 rest
          return (.byte code false, rest)
      else if c = 'u' then
        if rest = [] then return (.char c.toNat, rest)
        else
          let (digits, after) := Numeral.spanUpTo Numeral.isHex 4 rest
          if digits.length < 4 then throw .codePoint
          return (.codes [.single (Numeral.value 16 digits)], after)
      else if c = 'o' then
        match rest with
        | '{' :: inside =>
          match ← bracedCodes false true inside with
          | some (items, rest) => return (.codes items, rest)
          | none => return (.char c.toNat, rest)
        | _ => return (.char c.toNat, rest)
      else if Numeral.isOctal c then
        let (value, rest) ← octalByte 3 src
        return (.byte value true, rest)
      else value

/-- Splits off the next part of a bracket expression. -/
def ClassToken.next (flags : Flags) (src : List Char) :
    Except Error (ClassToken × List Char) :=
  match src with
  | [] => .ok (.endOfPattern, [])
  | ']' :: rest => .ok (.close, rest)
  | '-' :: rest => .ok (.dash, rest)
  | '\\' :: rest => ClassToken.escaped flags rest
  | '[' :: ':' :: rest =>
    if closesNamed rest then .ok (.named (':' :: rest), rest) else .ok (.nested, ':' :: rest)
  | '[' :: rest => .ok (.nested, rest)
  | '&' :: '&' :: rest => .ok (.both, rest)
  | c :: rest => .ok (.char c.toNat, rest)

/-- Where the reader of a bracket expression stands. -/
inductive ClassPhase
  | start
  | value
  | range
  | complete
  deriving DecidableEq, Repr

/-- What has been read of a bracket expression. -/
structure ClassState where
  phase : ClassPhase
  /-- The last single character, which may become the start of a range; `none` after a type. -/
  held : Option Nat
  /-- The sets read since the last `&&`, last first. -/
  parts : List CharSet
  /-- The intersection of what stood before the last `&&`. -/
  earlier : Option CharSet

namespace ClassState

/-- Nothing has been read. -/
def initial : ClassState := ⟨.start, none, [], none⟩

/-- Adds the character that is being held. -/
def settle (s : ClassState) : ClassState :=
  match s.phase, s.held with
  | .value, some code => { s with parts := .range code code :: s.parts, held := none }
  | _, _ => s

/-- Adds a single character or the end of a range. -/
def value (s : ClassState) (code : Nat) : Except Error ClassState :=
  match s.phase with
  | .value => .ok { s.settle with held := some code }
  | .range =>
    match s.held with
    | some first =>
      if first > code then .error .emptyRange
      else .ok { s with phase := .complete, held := some code,
                        parts := .range first code :: s.parts }
    | none => .ok { s with phase := .complete, held := some code }
  | .start | .complete => .ok { s with phase := .value, held := some code }

/-- Adds a set that cannot be the start or end of a range. -/
def type (s : ClassState) (set : CharSet) : Except Error ClassState :=
  if s.phase = .range then .error .classAtRangeEnd
  else
    let s := s.settle
    .ok { s with phase := .value, held := none, parts := set :: s.parts }

/-- Adds a nested expression. -/
def nested (s : ClassState) (set : CharSet) : ClassState :=
  let s := s.settle
  { s with phase := .complete, parts := set :: s.parts }

/-- The set read since the last `&&`. -/
def operand (s : ClassState) : CharSet := CharSet.unions s.parts.reverse

/-- The set of everything read. -/
def total (s : ClassState) : CharSet :=
  match s.settle with
  | s => match s.earlier with
    | some a => .inter a s.operand
    | none => s.operand

/-- Goes on behind `&&`. -/
def intersect (s : ClassState) : ClassState := ⟨.start, none, [], some s.total⟩

end ClassState

/-- The length of the character that starts with a byte. -/
def charLength (first : Nat) : Nat :=
  if first < 0xC2 then 1 else if first < 0xE0 then 2 else if first < 0xF0 then 3
  else if first < 0xF5 then 4 else 1

/-- The code point that bytes stand for. -/
def bytesCode? (bytes : List Nat) : Option Nat :=
  match String.fromUTF8? ⟨(bytes.map Nat.toUInt8).toArray⟩ with
  | some s => s.toList.head?.map Char.toNat
  | none => none

/-- Reads the name of a set after `[:`: the set and the rest, or `none` when it is no name. -/
def namedSet (flags : Flags) (src : List Char) : Except Error (Option (CharSet × List Char)) :=
  let (negated, src) := match src with
    | '^' :: rest => (true, rest)
    | _ => (false, src)
  let known := if src.length < 7 then none else
    Flags.posixNames.find? fun name => name.toList.isPrefixOf src
  match known with
  | some name =>
    match src.drop name.length with
    | ':' :: ']' :: rest => .ok (some (CharSet.negatedIf negated (flags.posixSet name), rest))
    | _ => .error .posixBracket
  | none =>
    let (skipped, rest) := Numeral.spanUpTo (fun c => c ≠ ':' && c ≠ ']') 21 src
    match rest with
    | ':' :: ']' :: _ => if skipped.length ≤ 20 then .error .posixBracket else .ok none
    | _ => .ok none

/-- How deep groups and brackets may nest. -/
def depthLimit : Nat := 4096

/-- A bracket expression: whether it is negated, its set without the negation, and the rest. -/
structure ClassResult where
  negated : Bool
  set : CharSet
  rest : List Char

/-- The set with the negation. -/
def ClassResult.whole (r : ClassResult) : CharSet := CharSet.negatedIf r.negated r.set

/-- Adds the code points and ranges of a braced sequence. -/
def addItems (s : ClassState) : List CodeItem → Except Error ClassState
  | [] => .ok s
  | .single code :: rest => do
    if code > lastCode && s.phase ≠ .range then throw .codePointTooBig
    addItems (← s.value code) rest
  | .span first last :: rest => do
    if first > lastCode then throw .codePointTooBig
    if first > last then throw .emptyRange
    addItems (← s.type (.range first last)) rest

/-- Reads further bytes of a character that are spelled in the same base. -/
def readBytes (flags : Flags) (octal : Bool) :
    Nat → List Char → Except Error (List Nat × List Char)
  | 0, src => .ok ([], src)
  | count + 1, src => do
    match ← ClassToken.next flags src with
    | (.byte value base, rest) =>
      if base = octal then
        let (bytes, rest) ← readBytes flags octal count rest
        return (value :: bytes, rest)
      else throw .shortBytes
    | _ => throw .shortBytes

mutual

/-- Reads a bracket expression behind its opening bracket. -/
def readClass (flags : Flags) : Nat → Nat → List Char → Except Error ClassResult
  | 0, _, _ => .error .internal
  | fuel + 1, depth, src => do
    if depth > depthLimit then throw .tooDeep
    let (negated, src) := match src with
      | '^' :: rest => (true, rest)
      | _ => (false, src)
    let (token, rest) ← ClassToken.next flags src
    let token ← match token with
      | .close => if hasClosing rest then pure (.char 0x5D) else throw .emptyClass
      | _ => pure token
    let (set, rest) ← readParts flags fuel depth .initial token rest
    return ⟨negated, set, rest⟩

/-- Reads on in a bracket expression from a part that has been split off. -/
def readParts (flags : Flags) : Nat → Nat → ClassState → ClassToken → List Char →
    Except Error (CharSet × List Char)
  | 0, _, _, _, _ => .error .internal
  | fuel + 1, depth, s, token, src => do
    let continueWith (s : ClassState) (src : List Char) : Except Error (CharSet × List Char) := do
      let (token, rest) ← ClassToken.next flags src
      readParts flags fuel depth s token rest
    match token with
    | .close => return (s.total, src)
    | .endOfPattern => throw .unclosedClass
    | .char code => continueWith (← s.value code) src
    | .byte value octal =>
      let length := charLength value
      if length = 1 then continueWith (← s.value value) src
      else
        let (bytes, src) ← readBytes flags octal (length - 1) src
        match bytesCode? (value :: bytes) with
        | some code => continueWith (← s.value code) src
        | none => throw .codePoint
    | .codes items => continueWith (← addItems s items) src
    | .type set => continueWith (← s.type set) src
    | .property negated =>
      let (set, rest) ← propertySet src
      continueWith (← s.type (CharSet.negatedIf negated set)) rest
    | .named after =>
      match ← namedSet flags src with
      | some (set, rest) => continueWith (← s.type set) rest
      | none => continueWith (← s.value 0x5B) after
    | .nested =>
      let inner ← readClass flags fuel (depth + 1) src
      continueWith (s.nested inner.whole) inner.rest
    | .both => continueWith s.intersect src
    | .dash =>
      match s.phase with
      | .value =>
        let (token, rest) ← ClassToken.next flags src
        match token with
        | .close | .both => readParts flags fuel depth (← s.value 0x2D) token rest
        | _ =>
          if s.held.isNone then throw .unmatchedRange
          readParts flags fuel depth { s with phase := .range } token rest
      | .start | .complete =>
        let (token, rest) ← ClassToken.next flags src
        readParts flags fuel depth (← s.value 0x2D) token rest
      | .range => continueWith (← s.value 0x2D) src

end

end ScopeCheck.Regex
