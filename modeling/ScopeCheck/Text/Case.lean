import ScopeCheck.Text.CaseTable
import ScopeCheck.Text.Property

/-!
# Lower and upper case

The full case mappings of texts.  One character may become several, and a capital sigma at the
end of a word has a lower case form of its own.
-/

namespace ScopeCheck.Text

/-- The mapping of one code point: the table of long images first, then the runs. -/
def mapCase (many : Array (Nat × List Nat)) (runs : Array CaseRun) (c : Char) : List Char :=
  match many.find? (·.1 == c.toNat) with
  | some (_, targets) => targets.map Char.ofNat
  | none => [((CaseRun.image? runs c.toNat).map Char.ofNat).getD c]

/-- The lower case of a character without its neighbours. -/
def lowerChar (c : Char) : List Char :=
  if c.toNat < 0x80 then [c.toLower] else mapCase lowerMany lowerRuns c

/-- The upper case of a character. -/
def upperChar (c : Char) : List Char :=
  if c.toNat < 0x80 then [c.toUpper] else mapCase upperMany upperRuns c

/-- Characters that have a case. -/
def casedCharacters : Ranges := Property.tableRanges "cased"

/-- Characters that are passed over when the neighbours of a sigma are looked at. -/
def caseIgnorable : Ranges := Property.tableRanges "ci"

/-- Whether the first character that is not passed over has a case. -/
def meetsCased (cs : List Char) : Bool :=
  match cs.dropWhile fun c => caseIgnorable.contains c.toNat with
  | [] => false
  | c :: _ => casedCharacters.contains c.toNat

/-- Lower case of a text; `before` holds what has been read, nearest first. -/
def lowerFrom : List Char → List Char → List Char
  | _, [] => []
  | before, c :: rest =>
    let image :=
      if c = 'Σ' then
        if meetsCased before && !meetsCased rest then ['ς'] else ['σ']
      else lowerChar c
    image ++ lowerFrom (c :: before) rest

/-- The lower case of a text. -/
def lower (cs : List Char) : List Char := lowerFrom [] cs

/-- The upper case of a text. -/
def upper (cs : List Char) : List Char := cs.flatMap upperChar

end ScopeCheck.Text
