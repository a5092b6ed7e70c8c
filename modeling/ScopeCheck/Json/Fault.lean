import ScopeCheck.Json.Value
import ScopeCheck.Text.Quoted

/-!
# What is wrong with a document

A `Fault` is a cause with the byte at which it was noticed.  `Fault.locate` turns the byte
into a line and a column, and `LocatedFault.message` words the whole.
-/

namespace ScopeCheck

open ScopeCheck.Text

/-- What a document holds where something else is wanted. -/
inductive Actual
  | null
  | bool (value : Bool)
  | number (value : JsonNumber)
  | string (value : String)
  | array
  | object
  deriving Inhabited

/-- Why a document is refused. -/
inductive FaultCause
  | endInValue
  | endInArray
  | endInObject
  | endInString
  | noValue
  | noKey
  | noColon
  | noArrayComma
  | noObjectComma
  | trailingComma
  | trailingText
  | controlCharacter
  | badEscape
  | unfinishedPair
  | loneSurrogate
  | badLiteral
  | badNumber
  | numberOutOfRange
  | tooDeep
  | wrongType (actual : Actual) (wanted : String)
  | duplicateField (name : String)
  | noAlternative (name : String)
  deriving Inhabited

/-- A cause with the byte at which it was noticed. -/
structure Fault where
  cause : FaultCause
  index : Nat
  deriving Inhabited

/-- How a value is named in a message. -/
def Actual.describe : Actual → String
  | null => "null"
  | bool true => "boolean \x60true\x60"
  | bool false => "boolean \x60false\x60"
  | number (.whole n) => "integer \x60" ++ Numeral.signed n ++ "\x60"
  | number (.float d) => "floating point \x60" ++ JsonNumber.floatText d ++ "\x60"
  | string s => "string " ++ quotedForReaders s
  | array => "sequence"
  | object => "map"

/-- The wording of a cause. -/
def FaultCause.describe : FaultCause → String
  | endInValue => "EOF while parsing a value"
  | endInArray => "EOF while parsing a list"
  | endInObject => "EOF while parsing an object"
  | endInString => "EOF while parsing a string"
  | noValue => "expected value"
  | noKey => "key must be a string"
  | noColon => "expected \x60:\x60"
  | noArrayComma => "expected \x60,\x60 or \x60]\x60"
  | noObjectComma => "expected \x60,\x60 or \x60\x7d\x60"
  | trailingComma => "trailing comma"
  | trailingText => "trailing characters"
  | controlCharacter => "control character (\\u0000-\\u001F) found while parsing a string"
  | badEscape => "invalid escape"
  | unfinishedPair => "unexpected end of hex escape"
  | loneSurrogate => "lone leading surrogate in hex escape"
  | badLiteral => "expected ident"
  | badNumber => "invalid number"
  | numberOutOfRange => "number out of range"
  | tooDeep => "recursion limit exceeded"
  | wrongType actual wanted => "invalid type: " ++ actual.describe ++ ", expected " ++ wanted
  | duplicateField name => "duplicate field \x60" ++ name ++ "\x60"
  | noAlternative name => "data did not match any variant of untagged enum " ++ name

/-- The line, and the number of bytes in it, at which `index` bytes of a text end. -/
def lineAndColumn : Nat → List Char → Nat × Nat → Nat × Nat
  | index, [], (line, column) => (line, column + index)
  | index, c :: rest, (line, column) =>
    if index < c.utf8Size then (line, column + index)
    else if c = '\n' then lineAndColumn (index - 1) rest (line + 1, 0)
    else lineAndColumn (index - c.utf8Size) rest (line, column + c.utf8Size)

/-- A cause with the line and the column at which it was noticed. -/
structure LocatedFault where
  cause : FaultCause
  line : Nat
  column : Nat
  deriving Inhabited

/-- A fault with its place in a document. -/
def Fault.locate (document : String) (f : Fault) : LocatedFault :=
  let (line, column) := lineAndColumn f.index document.toList (1, 0)
  ⟨f.cause, line, column⟩

/-- The text of a fault. -/
def LocatedFault.message (f : LocatedFault) : String :=
  f.cause.describe ++ " at line " ++ Numeral.decimal f.line ++ " column " ++
    Numeral.decimal f.column

end ScopeCheck
