import ScopeCheck.Text.Grapheme
import ScopeCheck.Text.Numeral
import ScopeCheck.Text.Property

/-!
# Texts inside messages

A text that a message shows stands between quotes, and characters that cannot be seen are
written by their number.
-/

namespace ScopeCheck.Text

/-- Characters without a shape of their own: controls, separators, and code points that are not
assigned. -/
def shapeless : List Ranges :=
  ["cn", "cc", "cf", "cs", "co", "zl", "zp", "zs"].map Property.tableRanges

/-- Whether a character is shown as it is. -/
def isShown (c : Char) : Bool :=
  c = ' ' || !(shapeless.any (·.contains c.toNat) || Grapheme.extenders.contains c.toNat)

/-- A character inside a shown text. -/
def shownChar (c : Char) : List Char :=
  if c = '"' then ['\\', '"']
  else if c = '\\' then ['\\', '\\']
  else if c = '\n' then ['\\', 'n']
  else if c = '\r' then ['\\', 'r']
  else if c = '\t' then ['\\', 't']
  else if c.toNat = 0 then ['\\', '0']
  else if isShown c then [c]
  else '\\' :: 'u' :: '{' :: (Numeral.digits 16 c.toNat ++ ['}'])

/-- A text as a message shows it. -/
def quotedForReaders (s : String) : String :=
  String.ofList ('"' :: (s.toList.flatMap shownChar ++ ['"']))

end ScopeCheck.Text
