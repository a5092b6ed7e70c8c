/-!
# Texts inside texts

`occursIn` says whether one text stands somewhere inside another.
-/

namespace ScopeCheck.Text

/-- Whether `needle` stands somewhere inside a text. -/
def occursIn (needle : List Char) : List Char → Bool
  | [] => needle.isPrefixOf []
  | c :: rest => needle.isPrefixOf (c :: rest) || occursIn needle rest

theorem occursIn_iff_infix {needle hay : List Char} :
    occursIn needle hay = true ↔ needle <:+: hay := by
  induction hay with
  | nil => simp [occursIn, List.isPrefixOf_iff_prefix]
  | cons c rest ih =>
    simp [occursIn, List.isPrefixOf_iff_prefix, ih, List.infix_cons_iff]

end ScopeCheck.Text
