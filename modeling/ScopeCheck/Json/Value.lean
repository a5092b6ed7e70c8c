import ScopeCheck.Dictionary
import ScopeCheck.Number.Shortest

/-!
# Values of the data format

`Json` is a value of the format, `Json.compact` its text without any blank.  The members of an
object stand in ascending order of their keys.
-/

namespace ScopeCheck

open ScopeCheck.Number
open ScopeCheck.Text

/-- A number: a whole one of at most 64 bits, or a floating-point one. -/
inductive JsonNumber
  | whole (value : Int)
  | float (value : Double)
  deriving DecidableEq, Inhabited, Repr

/-- A value of the data format. -/
inductive Json
  | null
  | bool (value : Bool)
  | number (value : JsonNumber)
  | string (value : String)
  | array (items : List Json)
  | object (members : List (String × Json))
  deriving Inhabited

mutual

/-- Tells two values apart. -/
def Json.decEq : (a b : Json) → Decidable (a = b)
  | .null, .null => isTrue rfl
  | .bool x, .bool y =>
    if h : x = y then isTrue (congrArg bool h) else isFalse fun hsame => h (bool.inj hsame)
  | .number x, .number y =>
    if h : x = y then isTrue (congrArg number h) else isFalse fun hsame => h (number.inj hsame)
  | .string x, .string y =>
    if h : x = y then isTrue (congrArg string h) else isFalse fun hsame => h (string.inj hsame)
  | .array xs, .array ys =>
    match decEqItems xs ys with
    | isTrue h => isTrue (congrArg array h)
    | isFalse h => isFalse fun hsame => h (array.inj hsame)
  | .object xs, .object ys =>
    match decEqMembers xs ys with
    | isTrue h => isTrue (congrArg object h)
    | isFalse h => isFalse fun hsame => h (object.inj hsame)
  | .null, .bool _ | .null, .number _ | .null, .string _ | .null, .array _ | .null, .object _
  | .bool _, .null | .bool _, .number _ | .bool _, .string _ | .bool _, .array _
  | .bool _, .object _ | .number _, .null | .number _, .bool _ | .number _, .string _
  | .number _, .array _ | .number _, .object _ | .string _, .null | .string _, .bool _
  | .string _, .number _ | .string _, .array _ | .string _, .object _ | .array _, .null
  | .array _, .bool _ | .array _, .number _ | .array _, .string _ | .array _, .object _
  | .object _, .null | .object _, .bool _ | .object _, .number _ | .object _, .string _
  | .object _, .array _ =>
    isFalse nofun

def Json.decEqItems : (xs ys : List Json) → Decidable (xs = ys)
  | [], [] => isTrue rfl
  | x :: xs, y :: ys =>
    match decEq x y, decEqItems xs ys with
    | isTrue h, isTrue hs => isTrue (h ▸ hs ▸ rfl)
    | isFalse h, _ => isFalse fun hsame => h (List.cons.inj hsame).1
    | _, isFalse hs => isFalse fun hsame => hs (List.cons.inj hsame).2
  | [], _ :: _ | _ :: _, [] => isFalse nofun

def Json.decEqMembers : (xs ys : List (String × Json)) → Decidable (xs = ys)
  | [], [] => isTrue rfl
  | (k, x) :: xs, (l, y) :: ys =>
    match instDecidableEqString k l, decEq x y, decEqMembers xs ys with
    | isTrue hk, isTrue h, isTrue hs => isTrue (hk ▸ h ▸ hs ▸ rfl)
    | isFalse hk, _, _ => isFalse fun hsame => hk (Prod.mk.inj (List.cons.inj hsame).1).1
    | _, isFalse h, _ => isFalse fun hsame => h (Prod.mk.inj (List.cons.inj hsame).1).2
    | _, _, isFalse hs => isFalse fun hsame => hs (List.cons.inj hsame).2
  | [], _ :: _ | _ :: _, [] => isFalse nofun

end

instance : DecidableEq Json := Json.decEq

namespace JsonNumber

/-- The greatest whole number that is kept exactly. -/
def greatest : Nat := 18446744073709551615

/-- The least whole number that is kept exactly. -/
def least : Int := -9223372036854775808

/-- The layout of floating-point numbers. -/
def style : DecimalStyle := ⟨-5, 15, ".0", "e+"⟩

/-- The text of a floating-point number. -/
def floatText : Double → String
  | .finite negative m e => (if negative then "-" else "") ++ style.render (shortest m e)
  | .infinite _ | .nan => "null"

/-- The text of a number. -/
def text : JsonNumber → String
  | whole n => Numeral.signed n
  | float d => floatText d

/-- The number as a natural number of 64 bits. -/
def natural? : JsonNumber → Option Nat
  | whole (.ofNat n) => some n
  | _ => none

end JsonNumber

namespace Json

/-- The escape of a character inside a string, if it needs one. -/
def escape? (c : Char) : Option String :=
  if c = '"' then some "\\\""
  else if c = '\\' then some "\\\\"
  else if c = '\n' then some "\\n"
  else if c = '\r' then some "\\r"
  else if c = '\t' then some "\\t"
  else if c.toNat = 8 then some "\\b"
  else if c.toNat = 12 then some "\\f"
  else if c.toNat < 32 then
    let digits := [Numeral.digitChar (c.toNat / 16), Numeral.digitChar (c.toNat % 16)]
    some ("\\u00" ++ String.ofList digits)
  else none

/-- The characters of a string between quotes. -/
def quotedChars (s : String) : List Char :=
  '"' :: (s.toList.flatMap fun c =>
    match escape? c with
    | some e => e.toList
    | none => [c]) ++ ['"']

/-- A string between quotes. -/
def quoted (s : String) : String := String.ofList (quotedChars s)

mutual

/-- The compact text of a value, in front of `tail`. -/
def onto (tail : List Char) : Json → List Char
  | null => "null".toList ++ tail
  | bool true => "true".toList ++ tail
  | bool false => "false".toList ++ tail
  | number n => n.text.toList ++ tail
  | string s => quotedChars s ++ tail
  | array [] => '[' :: ']' :: tail
  | array (v :: rest) => '[' :: onto (itemsOnto (']' :: tail) rest) v
  | object [] => '{' :: '}' :: tail
  | object ((k, v) :: rest) =>
    '{' :: quotedChars k ++ ':' :: onto (membersOnto ('}' :: tail) rest) v

/-- The values that follow the first one of an array. -/
def itemsOnto (tail : List Char) : List Json → List Char
  | [] => tail
  | v :: rest => ',' :: onto (itemsOnto tail rest) v

/-- The members that follow the first one of an object. -/
def membersOnto (tail : List Char) : List (String × Json) → List Char
  | [] => tail
  | (k, v) :: rest => ',' :: quotedChars k ++ ':' :: onto (membersOnto tail rest) v

end

/-- The compact text of a value. -/
def compact (v : Json) : String := String.ofList (onto [] v)

/-- The object of these members, the last one of a key taking precedence. -/
def ofMembers (members : List (String × Json)) : Json := object (Dictionary.ofList members)

/-- The value of a member. -/
def member? (key : String) : Json → Option Json
  | object members => Dictionary.find? key members
  | _ => none

/-- The text of a string. -/
def string? : Json → Option String
  | string s => some s
  | _ => none

end Json

end ScopeCheck
