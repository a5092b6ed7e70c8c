/-!
# Texts as bytes

Texts leave and enter the program as UTF-8.  `byteLength` counts the bytes of a text,
`decodeLossy` reads any bytes and puts U+FFFD for each longest start of a character that does
not go on as a character.
-/

namespace ScopeCheck.Text

/-- The number of bytes of a text. -/
def byteLength : List Char → Nat
  | [] => 0
  | c :: cs => c.utf8Size + byteLength cs

theorem byteLength_nil : byteLength [] = 0 := rfl

theorem byteLength_cons (c : Char) (cs : List Char) :
    byteLength (c :: cs) = c.utf8Size + byteLength cs := rfl

theorem byteLength_append (xs ys : List Char) :
    byteLength (xs ++ ys) = byteLength xs + byteLength ys := by
  induction xs with
  | nil => simp [byteLength]
  | cons c xs ih => rw [List.cons_append, byteLength_cons, byteLength_cons, ih, Nat.add_assoc]

/-- The bytes of a text. -/
def encode (s : String) : List UInt8 := s.toUTF8.data.toList

theorem encode_empty : encode "" = [] := rfl

theorem encode_append (a b : String) : encode (a ++ b) = encode a ++ encode b := by
  simp [encode]

/-- Stands for bytes that are no text. -/
def replacement : Char := '\uFFFD'

/-- The value of a continuation byte. -/
def tailValue (b : UInt8) : Nat := b.toNat - 0x80

/-- Whether a byte continues a character. -/
def isTail (b : UInt8) : Bool := 0x80 ≤ b && b ≤ 0xBF

/-- For the first byte of a longer character: the number of bytes that follow, the bounds of the
second byte, and the bits of the first. -/
def leading? (b : UInt8) : Option (Nat × UInt8 × UInt8 × Nat) :=
  if 0xC2 ≤ b && b ≤ 0xDF then some (1, 0x80, 0xBF, b.toNat - 0xC0)
  else if b = 0xE0 then some (2, 0xA0, 0xBF, 0)
  else if b = 0xED then some (2, 0x80, 0x9F, 0xD)
  else if 0xE1 ≤ b && b ≤ 0xEF then some (2, 0x80, 0xBF, b.toNat - 0xE0)
  else if b = 0xF0 then some (3, 0x90, 0xBF, 0)
  else if b = 0xF4 then some (3, 0x80, 0x8F, 4)
  else if 0xF1 ≤ b && b ≤ 0xF3 then some (3, 0x80, 0xBF, b.toNat - 0xF0)
  else none

/-- Where the reader stands: between characters, or inside one that wants `wanted` more bytes,
the next of them between `low` and `high`. -/
inductive Reading
  | between
  | inside (wanted : Nat) (low high : UInt8) (value : Nat)

/-- Reads bytes as text, with the replacement character for what is none. -/
def decodeFrom : Reading → List UInt8 → List Char
  | .between, [] => []
  | .inside .., [] => [replacement]
  | .between, b :: rest => start b rest
  | .inside wanted low high value, b :: rest =>
    if low ≤ b && b ≤ high then
      let value := value * 64 + tailValue b
      if wanted ≤ 1 then Char.ofNat value :: decodeFrom .between rest
      else decodeFrom (.inside (wanted - 1) 0x80 0xBF value) rest
    else replacement :: start b rest
where
  /-- Reads on from a byte that starts a character. -/
  start (b : UInt8) (rest : List UInt8) : List Char :=
    if b < 0x80 then Char.ofNat b.toNat :: decodeFrom .between rest
    else
      match leading? b with
      | none => replacement :: decodeFrom .between rest
      | some (wanted, low, high, value) => decodeFrom (.inside wanted low high value) rest

/-- Reads bytes as text, with the replacement character for what is none. -/
def decodeLossy (bytes : List UInt8) : String := String.ofList (decodeFrom .between bytes)

/-- Reads bytes that are text throughout. -/
def decode? (bytes : List UInt8) : Option String :=
  String.fromUTF8? ⟨bytes.toArray⟩

end ScopeCheck.Text
