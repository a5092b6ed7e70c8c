/-!
# Anchors that may be forbidden

A pattern may ask for the start of the text, written as a backslash with `A`, or for the place
where the last rule was entered, written as a backslash with `G`.  Where one of them is not
allowed it is replaced by a character that never occurs, so that the pattern cannot match
through it.

A backslash takes the character behind it along, so that an escaped backslash starts no anchor.
-/

namespace ScopeCheck.Anchors

/-- A character that never occurs in a text. -/
def unmatchable : Char := '\uFFFF'

/-- Whether a source has an anchor. -/
def occur : List Char → Bool
  | '\\' :: c :: rest => c = 'A' || c = 'G' || occur rest
  | _ :: rest => occur rest
  | [] => false

/-- A source without the anchors that are not allowed. -/
def restrict (allowStart allowEntry : Bool) : List Char → List Char
  | '\\' :: c :: rest =>
    if (c = 'A' && !allowStart) || (c = 'G' && !allowEntry) then
      unmatchable :: restrict allowStart allowEntry rest
    else '\\' :: c :: restrict allowStart allowEntry rest
  | c :: rest => c :: restrict allowStart allowEntry rest
  | [] => []

end ScopeCheck.Anchors
