import ScopeCheck.Json.Fault

/-!
# Documents as far as they can be read

A document is read into a tree that breaks off where the text is no longer a document.  What
takes the tree apart walks it in the order of the text and stops at the first fault, be it one
of the text or one of its own.

A value that is passed over is read less strictly: its strings may hold halves of surrogate pairs
and its numbers any exponent.  So a place that cannot be read carries two faults, `strict` for a
value that is wanted and `loose` for one that is passed over.

The number after a child is the byte up to which a reader that gives up there has looked for the
end of the container.
-/

namespace ScopeCheck

/-- The faults of a place that cannot be read. -/
structure Break where
  strict : Fault
  loose : Fault

mutual

/-- A document as far as it can be read.  `start` is its first byte and `stop` the byte after
its last one. -/
inductive JsonTree
  | null (stop : Nat)
  | bool (value : Bool) (stop : Nat)
  | number (value : Except Fault JsonNumber) (stop : Nat)
  | string (value : Except Fault String) (stop : Nat)
  | array (start : Nat) (items : JsonItems)
  | object (start : Nat) (members : JsonMembers)
  | broken (faults : Break)

/-- The rest of an array. -/
inductive JsonItems
  | done
  | broken (faults : Break)
  | more (item : JsonTree) (after : Nat) (rest : JsonItems)

/-- The rest of an object. -/
inductive JsonMembers
  | done
  | broken (faults : Break)
  | more (key : Except Fault String) (afterKey : Nat) (value : JsonTree) (after : Nat)
      (rest : JsonMembers)

end

instance : Inhabited JsonTree := ⟨.null 0⟩

/-- The same fault for either way of reading. -/
def Break.both (cause : FaultCause) (index : Nat) : Break := ⟨⟨cause, index⟩, ⟨cause, index⟩⟩

end ScopeCheck
