import ScopeCheck.Json.Value
import ScopeCheck.Number.Double
import ScopeCheck.Text.Numeral
import ScopeCheck.Yaml.Tree

/-!
# Values

What the scalars of a document stand for, and documents as values of the data format.

* A plain scalar without a tag is null, a truth value, a number or else a text; digits after a
  leading zero are a text.
* Any other scalar without a tag is a text.
* The tags for null, truth values and numbers require such a text; further common tags say that
  the scalar is a text; a tag of the author's own is refused.
-/

namespace ScopeCheck.Yaml

open ScopeCheck.Number
open ScopeCheck.Text

/-- The name of a common tag. -/
def commonTag (name : String) : String := "tag:yaml.org,2002:" ++ name

/-- Whether a tag is the author's own. -/
def isOwnTag (tag : String) : Bool := tag.toList.head? = some '!'

/-- Whether a text stands for null. -/
def isNull (text : String) : Bool := ["null", "Null", "NULL", "~"].contains text

/-- The truth value that a text stands for. -/
def truth? (text : String) : Option Bool :=
  if ["true", "True", "TRUE"].contains text then some true
  else if ["false", "False", "FALSE"].contains text then some false
  else none

/-- Whether a number is written with a sign, and what follows the sign. -/
def signOf : List Char → Option Bool × List Char
  | '-' :: rest => (some true, rest)
  | '+' :: rest => (some false, rest)
  | cs => (none, cs)

/-- Whether a text consists of digits after a leading zero. -/
def isZeroPadded (cs : List Char) : Bool :=
  match (signOf cs).2 with
  | '0' :: d :: rest => (d :: rest).all Numeral.isDecimal
  | _ => false

/-- The whole number that digits stand for, in the base that they start with. -/
def magnitude? : List Char → Option Nat
  | '0' :: 'x' :: rest => Numeral.ofDigits? 16 rest
  | '0' :: 'o' :: rest => Numeral.ofDigits? 8 rest
  | '0' :: 'b' :: rest => Numeral.ofDigits? 2 rest
  | cs => Numeral.ofDigits? 10 cs

/-- The whole number of at most 128 bits that a text stands for. -/
def whole? (cs : List Char) : Option Int :=
  if isZeroPadded cs then none
  else
    let (negative, digits) := signOf cs
    match magnitude? digits with
    | none => none
    | some n =>
      if negative = some true then if n ≤ Nat.pow 2 127 then some (-n) else none
      else if n < Nat.pow 2 128 then some n
      else none

/-- The value of digits with a point and an exponent. -/
def decimal? (negative : Bool) (cs : List Char) : Option Double := do
  let (before, rest) := Numeral.spanWhile Numeral.isDecimal cs
  let (behind, rest) :=
    match rest with
    | '.' :: rest => Numeral.spanWhile Numeral.isDecimal rest
    | rest => ([], rest)
  if before = [] && behind = [] then none
  else
    let exponent ←
      match rest with
      | [] => some 0
      | e :: rest =>
        if e = 'e' || e = 'E' then
          let (sign, digits) := signOf rest
          (Numeral.ofDigits? 10 digits).map fun n => if sign = some true then -(n : Int) else n
        else none
    let d := Double.ofDecimal negative (Numeral.value 10 (before ++ behind))
      (exponent - behind.length)
    match d with
    | .finite .. => some d
    | _ => none

/-- The floating-point number that a text stands for. -/
def float? (cs : List Char) : Option Double :=
  let (sign, rest) := signOf cs
  if [".inf", ".Inf", ".INF"].contains (String.ofList rest) then
    some (.infinite (sign = some true))
  else if [".nan", ".NaN", ".NAN"].contains (String.ofList cs) then some .nan
  else decimal? (sign = some true) rest

/-- A whole number as a value; one of more than 64 bits is refused. -/
def wholeValue (n : Int) : Option Json :=
  if JsonNumber.least ≤ n ∧ n ≤ JsonNumber.greatest then some (.number (.whole n)) else none

/-- A floating-point number as a value; one that is not finite is null. -/
def floatValue : Double → Json
  | .finite negative m e => .number (.float (.finite negative m e))
  | _ => .null

/-- The value of a plain scalar without a tag. -/
def plainValue (text : String) : Option Json :=
  if text = "" || isNull text then some .null
  else
    match truth? text, whole? text.toList, float? text.toList with
    | some b, _, _ => some (.bool b)
    | none, some n, _ => wholeValue n
    | none, none, some d =>
      if isZeroPadded text.toList then some (.string text) else some (floatValue d)
    | none, none, none => some (.string text)

/-- The value of a scalar. -/
def scalarValue (tag : Option String) (text : String) (plain : Bool) : Option Json :=
  match tag with
  | none => if plain then plainValue text else some (.string text)
  | some tag =>
    if tag = commonTag "null" then if isNull text then some .null else none
    else if tag = commonTag "bool" then (truth? text).map .bool
    else if tag = commonTag "int" then (whole? text.toList).bind wholeValue
    else if tag = commonTag "float" then (float? text.toList).map floatValue
    else if isOwnTag tag then none
    else some (.string text)

namespace Tree

/-- The text of a scalar. -/
def text? : Tree → Option String
  | scalar _ text _ => some text
  | _ => none

mutual

/-- A tree as a value. -/
def value? : Tree → Option Json
  | scalar tag text plain => scalarValue tag text plain
  | sequence tag items => if tag.any isOwnTag then none else (itemValues items).map .array
  | mapping tag pairs => if tag.any isOwnTag then none else (memberValues pairs).map .ofMembers
  | refused => none

/-- A list of trees as values. -/
def itemValues : List Tree → Option (List Json)
  | [] => some []
  | item :: items => do
    let v ← item.value?
    return v :: (← itemValues items)

/-- A list of pairs as the members of an object. -/
def memberValues : List (Tree × Tree) → Option (List (String × Json))
  | [] => some []
  | (key, item) :: pairs => do
    let k ← key.text?
    let v ← item.value?
    return (k, v) :: (← memberValues pairs)

end

end Tree

end ScopeCheck.Yaml
