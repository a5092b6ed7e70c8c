import ScopeCheck.Text.Utf8

/-!
# Where output goes

A `Sink` takes the bytes that are written to it, perhaps only so many of them.  What does not fit
is cut off, in the middle of a character if need be.
-/

namespace ScopeCheck

/-- Takes bytes. -/
structure Sink where
  written : List UInt8
  /-- How many bytes it takes in all, and why it takes no more. -/
  limit : Option (Nat × String)
  /-- Why what has been written cannot be passed on. -/
  stuck : Option String
  deriving Inhabited

namespace Sink

/-- A sink without a limit. -/
def unlimited : Sink := ⟨[], none, none⟩

/-- The sink after bytes have been written. -/
def add (s : Sink) (bytes : List UInt8) : Sink :=
  match s.limit with
  | none => { s with written := s.written ++ bytes }
  | some (room, _) => { s with written := (s.written ++ bytes).take room }

/-- Why bytes cannot be written in full. -/
def refusal? (s : Sink) (bytes : List UInt8) : Option String :=
  match s.limit with
  | none => none
  | some (room, reason) => if room < (s.written ++ bytes).length then some reason else none

/-- Writes a text. -/
def write (s : Sink) (text : String) : Sink × Option String :=
  let bytes := Text.encode text
  (s.add bytes, s.refusal? bytes)

/-- What has been written, as a text. -/
def text (s : Sink) : String := Text.decodeLossy s.written

end Sink

end ScopeCheck
