import ScopeCheck.Regex.Escape
import ScopeCheck.Regex.Flags

/-!
# Tokens of a pattern

Splits a pattern into characters, sets, groups, repetitions and references, outside of bracket
expressions.  What a token is can depend on the options in force and on the groups that have
been opened before it.
-/

namespace ScopeCheck.Regex

open ScopeCheck.Text

/-- The groups that have been opened. -/
structure Groups where
  count : Nat
  names : List (List Char × Nat)
  deriving Inhabited, DecidableEq, Repr

/-- The tokens of a pattern. -/
inductive Token
  | endOfPattern
  | char (c : Char)
  /-- A byte that is spelled in octal or in hexadecimal. -/
  | byte (value : Nat) (octal : Bool)
  | codes (codes : List Nat)
  | dot
  | set (members : CharSet)
  /-- A property, whose name follows. -/
  | property (negated : Bool)
  | bracket
  | repetition (low : Nat) (high : Option Nat) (greedy possessive : Bool)
  | bar
  | opening
  | closing
  | assertion (a : Assertion)
  | backref (groups : List Nat)
  | call (callee : Callee)
  | keep
  | newline
  | noNewline
  | anyAtAll
  | cluster
  deriving DecidableEq, Repr

namespace Token

/-- Skips a comment group behind its number sign. -/
def skipComment : List Char → Except Error (List Char)
  | [] => .error .endInGroup
  | ['\\'] => .error .endInGroup
  | '\\' :: _ :: rest => skipComment rest
  | ')' :: rest => .ok rest
  | _ :: rest => skipComment rest

/-- Skips comments and, in the extended notation, white space. -/
def skipIgnored (flags : Flags) : Nat → List Char → Except Error (List Char)
  | 0, src => .ok src
  | fuel + 1, src =>
    match src with
    | '(' :: '?' :: '#' :: rest => do skipIgnored flags fuel (← skipComment rest)
    | '#' :: rest =>
      if flags.extended then skipIgnored flags fuel ((rest.dropWhile (· ≠ '\n')).drop 1)
      else .ok src
    | c :: rest =>
      if flags.extended && (c = ' ' || c = '\t' || c = '\n' || c = '\r' || c = '\x0C') then
        skipIgnored flags fuel rest
      else .ok src
    | [] => .ok src

/-- What follows a repetition sign: a question mark makes it lazy, a plus sign possessive. -/
def repetitionMode (low : Nat) (high : Option Nat) (lazyAllowed plusAllowed possessive : Bool)
    (src : List Char) : Token × List Char :=
  match src with
  | '?' :: rest =>
    if lazyAllowed && !possessive then (repetition low high false false, rest)
    else (repetition low high true possessive, src)
  | '+' :: rest =>
    if plusAllowed && !possessive then (repetition low high true true, rest)
    else (repetition low high true possessive, src)
  | _ => (repetition low high true possessive, src)

/-- Reads a counted repetition behind its opening brace; `none` when it is not spelled as one. -/
def interval (src : List Char) : Except Error (Option (Token × List Char)) := do
  let (low?, rest) := decimalNumber src
  let low ← match low? with
    | some n => if n ≤ repeatLimit then pure n else throw .repeatTooBig
    | none => throw .repeatTooBig
  let noLow := rest.length = src.length
  match rest with
  | ',' :: rest =>
    let (high?, after) := decimalNumber rest
    let high ← match high? with
      | some n => if n ≤ repeatLimit then pure n else throw .repeatTooBig
      | none => throw .repeatTooBig
    let unbounded := after.length = rest.length
    if unbounded && noLow then return none
    match after with
    | '}' :: after =>
      if unbounded then return some (repetitionMode low none true false false after)
      else if low > high then return some (repetitionMode high (some low) true false true after)
      else return some (repetitionMode low (some high) true false false after)
    | _ => return none
  | '}' :: rest =>
    if noLow then return none
    return some (repetitionMode low (some low) false false false rest)
  | _ => return none

/-- The group numbers that a reference means. -/
def refGroups (groups : Groups) : GroupRef → Except Error (List Nat)
  | .absolute n => if n = 0 then .error .backReference else .ok [n]
  | .relative forwards distance =>
    match absoluteIndex? groups.count forwards distance with
    | some n => if n = 0 then .error .backReference else .ok [n]
    | none => .error .backReference
  | .named name =>
    match groupsNamed groups.names name with
    | [] => .error (.undefinedName name)
    | numbers => .ok numbers

/-- The callee that a reference means; `text` is how it is spelled. -/
def refCallee (groups : Groups) (text : List Char) : GroupRef → Except Error Callee
  | .absolute n => .ok (.number n)
  | .relative forwards distance =>
    match absoluteIndex? groups.count forwards distance with
    | some n => .ok (.number n)
    | none => .error (.undefinedGroup text)
  | .named name => .ok (.name name)

/-- The mark that closes a name opened by `<` or `'`. -/
def nameClosing (c : Char) : Char := if c = '<' then '>' else c

/-- The token that a backslash starts. -/
def escaped (flags : Flags) (groups : Groups) (src : List Char) :
    Except Error (Token × List Char) := do
  match src with
  | [] => throw .endAtEscape
  | c :: rest =>
    match flags.typeSet? c with
    | some members => return (.set members, rest)
    | none => match c with
      | 'b' => return (.assertion (.wordBoundary flags.wordSet), rest)
      | 'B' => return (.assertion (.noWordBoundary flags.wordSet), rest)
      | 'y' => return (.assertion .clusterBoundary, rest)
      | 'Y' => return (.assertion .noClusterBoundary, rest)
      | 'A' => return (.assertion .textStart, rest)
      | 'Z' => return (.assertion .textEndOrNewline, rest)
      | 'z' => return (.assertion .textEnd, rest)
      | 'G' => return (.assertion .searchStart, rest)
      | 'R' => return (.newline, rest)
      | 'N' => return (.noNewline, rest)
      | 'O' => return (.anyAtAll, rest)
      | 'X' => return (.cluster, rest)
      | 'K' => return (.keep, rest)
      | 'p' | 'P' =>
        match rest with
        | '{' :: '^' :: rest => return (.property (c = 'p'), rest)
        | '{' :: rest => return (.property (c = 'P'), rest)
        | _ => return (.char c, rest)
      | 'k' =>
        match rest with
        | mark :: name =>
          if mark = '<' || mark = '\'' then
            let (ref, rest) ← groupRef true (nameClosing mark) name
            return (.backref (← refGroups groups ref), rest)
          else return (.char c, rest)
        | [] => return (.char c, rest)
      | 'g' =>
        match rest with
        | mark :: name =>
          if mark = '<' || mark = '\'' then
            let (ref, rest) ← groupRef false (nameClosing mark) name
            let text := name.take (name.length - rest.length - 1)
            return (.call (← refCallee groups text ref), rest)
          else return (.char c, rest)
        | [] => return (.char c, rest)
      | 'x' =>
        match rest with
        | [] => return (.char c, rest)
        | '{' :: inside =>
          match ← bracedCodes true false inside with
          | some (items, rest) => return (.codes (← items.mapM single), rest)
          | none => return (.char c, rest)
        | _ =>
          let (code, rest, _) ← hexCode 2 rest
          return (.byte code false, rest)
      | 'u' =>
        if rest = [] then return (.char c, rest)
        let (digits, after) := Numeral.spanUpTo Numeral.isHex 4 rest
        if digits.length < 4 then throw .codePoint
        return (.codes [Numeral.value 16 digits], after)
      | 'o' =>
        match rest with
        | '{' :: inside =>
          match ← bracedCodes false false inside with
          | some (items, rest) => return (.codes (← items.mapM single), rest)
          | none => return (.char c, rest)
        | _ => return (.char c, rest)
      | '0' =>
        let (value, rest) ← octalByte 2 rest
        return (.byte value true, rest)
      | _ =>
        if Numeral.isDecimal c then
          let (number?, after) := decimalNumber src
          let isRef := match number? with
            | some n => n ≤ groups.count || n ≤ 9
            | none => false
          if isRef then return (.backref [number?.getD 0], after)
          else if Numeral.isOctal c then
            let (value, rest) ← octalByte 3 src
            return (.byte value true, rest)
          else return (.char c, rest)
        else
          let (code, after) ← escapedValue (src.length + 1) src
          if code = c.toNat && after.length = rest.length then return (.char c, rest)
          else return (.codes [code], after)
where
  /-- A code point of a sequence outside of brackets. -/
  single : CodeItem → Except Error Nat
    | .single code => checkedCode code
    | .span .. => .error .codePoint

/-- Splits off the next token. -/
def next (flags : Flags) (groups : Groups) (src : List Char) :
    Except Error (Token × List Char) := do
  match ← skipIgnored flags (src.length + 1) src with
  | [] => return (.endOfPattern, [])
  | c :: rest => match c with
    | '\\' => escaped flags groups rest
    | '.' => return (.dot, rest)
    | '*' => return repetitionMode 0 none true true false rest
    | '+' => return repetitionMode 1 none true true false rest
    | '?' => return repetitionMode 0 (some 1) true true false rest
    | '{' =>
      match ← interval rest with
      | some result => return result
      | none => return (.char c, rest)
    | '|' => return (.bar, rest)
    | '(' => return (.opening, rest)
    | ')' => return (.closing, rest)
    | '^' => return (.assertion .lineStart, rest)
    | '$' => return (.assertion .lineEnd, rest)
    | '[' => return (.bracket, rest)
    | _ => return (.char c, rest)

end Token

end ScopeCheck.Regex
