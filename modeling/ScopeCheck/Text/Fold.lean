import ScopeCheck.Text.CaseTable

/-!
# Case folding

Two texts are the same without regard to case when their foldings are equal.  A character may
fold to several; `variants` lists the other characters with the folding of a given one.
-/

namespace ScopeCheck.Text

/-- The folding of a code point. -/
def fold (code : Nat) : List Nat :=
  if code < 0x80 then
    if 0x41 ≤ code && code ≤ 0x5A then [code + 0x20] else [code]
  else
    match foldMany.find? (·.1 == code) with
    | some (_, targets) => targets
    | none => [(CaseRun.image? foldRuns code).getD code]

/-- The folding of a sequence of code points. -/
def foldAll (codes : List Nat) : List Nat := codes.flatMap fold

/-- The code points of a run with their images. -/
def CaseRun.pairs (r : CaseRun) : List (Nat × List Nat) :=
  (List.range ((r.last - r.first) / r.step + 1)).map fun i =>
    let code := r.first + i * r.step
    (code, [(Int.ofNat code + r.distance).toNat])

/-- All code points that do not fold to themselves, with their foldings. -/
def foldPairs : Array (Nat × List Nat) :=
  (foldRuns.toList.flatMap CaseRun.pairs).toArray ++ foldMany

/-- The code points whose folding is the given sequence. -/
def unfold (folded : List Nat) : List Nat :=
  let moved := (foldPairs.filter (·.2 == folded)).toList.map (·.1)
  match folded with
  | [code] => if fold code = folded then code :: moved else moved
  | _ => moved

/-- The other code points with the folding of `code`. -/
def variants (code : Nat) : List Nat :=
  if 0x61 ≤ code && code ≤ 0x7A || 0x41 ≤ code && code ≤ 0x5A then
    let low := (fold code).headD code
    let other := if code = low then code - 0x20 else low
    if low = 0x6B then [other, 0x212A]
    else if low = 0x73 then [other, 0x17F]
    else [other]
  else if code < 0x80 then []
  else (unfold (fold code)).filter (· ≠ code)

end ScopeCheck.Text
