import ScopeCheck.Dictionary

/-!
# Grammar documents

What the author of a grammar writes: a `Document` with lists of `Entry`s.  Nothing is checked
here; patterns are read when a grammar is compiled.

`Document.references` are the other grammars that a document mentions, in ascending order.
Injections are kept but take no part in anything.
-/

namespace ScopeCheck

/-- A truth value, which authors also write as a number. -/
inductive Switch
  | bool (value : Bool)
  | number (value : Int)
  deriving DecidableEq, Inhabited, Repr

/-- Whether a switch says yes. -/
def Switch.isOn : Switch → Bool
  | bool b => b
  | number n => n ≠ 0

/-- A rule as it is written: an entry of a list of patterns, of a repository or of a map of
captures. -/
structure Entry where
  /-- The rule that stands here instead. -/
  reference : Option String
  name : Option String
  contentName : Option String
  matchSource : Option String
  beginSource : Option String
  endSource : Option String
  whileSource : Option String
  captures : Option (List (String × Entry))
  beginCaptures : Option (List (String × Entry))
  endCaptures : Option (List (String × Entry))
  whileCaptures : Option (List (String × Entry))
  patterns : Option (List Entry)
  repository : Option (List (String × Entry))
  endLast : Option Switch
  disabled : Option Switch
  deriving Inhabited

/-- Which captures an entry stands in. -/
inductive CaptureMap
  | whole
  | first
  | last
  | condition
  deriving DecidableEq, Inhabited, Repr

/-- How an entry stands inside another one, or inside a document. -/
inductive Step
  | pattern (index : Nat)
  | repository (name : String)
  | capture (which : CaptureMap) (key : String)
  deriving DecidableEq, Inhabited, Repr

namespace Entry

/-- An entry without any field. -/
def blank : Entry :=
  ⟨none, none, none, none, none, none, none, none, none, none, none, none, none, none, none⟩

/-- Whether an entry has been switched off. -/
def isOff (e : Entry) : Bool := e.disabled.any Switch.isOn

/-- Whether the end pattern is tried after the patterns. -/
def triesEndLast (e : Entry) : Bool := e.endLast.any Switch.isOn

/-- The captures of the whole rule, of its begin, of its end or of its while pattern. -/
def captureMap (e : Entry) : CaptureMap → List (String × Entry)
  | .whole => e.captures.getD []
  | .first => e.beginCaptures.getD []
  | .last => e.endCaptures.getD []
  | .condition => e.whileCaptures.getD []

/-- The entries that stand directly inside an entry. -/
def inside (e : Entry) : List (Step × Entry) :=
  (e.patterns.getD []).mapIdx (fun i child => (.pattern i, child)) ++
    (e.repository.getD []).map (fun p => (.repository p.1, p.2)) ++
    [.whole, .first, .last, .condition].flatMap fun which =>
      (e.captureMap which).map fun p => (.capture which p.1, p.2)

theorem sizeOf_pair_lt {pairs : List (String × Entry)} {p : String × Entry} (h : p ∈ pairs) :
    sizeOf p.2 < sizeOf pairs := by
  have := List.sizeOf_lt_of_mem h
  obtain ⟨key, value⟩ := p
  simp only [Prod.mk.sizeOf_spec] at this ⊢
  omega

theorem sizeOf_getD_lt {pairs : Option (List (String × Entry))} {p : String × Entry}
    (h : p ∈ pairs.getD []) : sizeOf p.2 < sizeOf pairs := by
  cases pairs with
  | none => simp at h
  | some list =>
    rw [Option.getD_some] at h
    have := sizeOf_pair_lt h
    simp only [Option.some.sizeOf_spec]
    omega

theorem sizeOf_captureMap_lt {e : Entry} {which : CaptureMap} {p : String × Entry}
    (h : p ∈ e.captureMap which) : sizeOf p.2 < sizeOf e := by
  obtain ⟨reference, name, contentName, m, b, en, w, c, bc, ec, wc, patterns, repository, l, d⟩ := e
  simp only [mk.sizeOf_spec]
  have bound := @sizeOf_getD_lt
  cases which
  all_goals
    have := bound h
    dsimp only at this
    omega

theorem sizeOf_inside_lt {e : Entry} {p : Step × Entry} (h : p ∈ e.inside) :
    sizeOf p.2 < sizeOf e := by
  simp only [inside, List.mem_append, List.mem_mapIdx, List.mem_map, List.mem_flatMap] at h
  rcases h with (⟨i, h, rfl⟩ | ⟨q, mem, rfl⟩) | ⟨which, -, q, mem, rfl⟩
  · obtain ⟨reference, name, contentName, m, b, en, w, c, bc, ec, wc, patterns, repository,
      l, d⟩ := e
    simp only [mk.sizeOf_spec]
    cases patterns with
    | none => simp at h
    | some list =>
      have := List.sizeOf_lt_of_mem (List.getElem_mem h)
      simp only [Option.getD_some, Option.some.sizeOf_spec] at *
      omega
  · obtain ⟨reference, name, contentName, m, b, en, w, c, bc, ec, wc, patterns, repository,
      l, d⟩ := e
    simp only [mk.sizeOf_spec]
    have := sizeOf_getD_lt mem
    dsimp only at this
    omega
  · exact sizeOf_captureMap_lt mem

end Entry

/-- What the include of an entry names. -/
inductive Target
  /-- The grammar that the entry belongs to. -/
  | self
  /-- The grammar that is being compiled. -/
  | base
  /-- An entry of the repositories around. -/
  | named (name : String)
  /-- Another grammar. -/
  | grammar (scope : String)
  /-- An entry of the repository of another grammar. -/
  | entryOf (scope name : String)
  deriving DecidableEq, Repr

/-- Reads the text of an include. -/
def Target.ofText (text : String) : Target :=
  if text = "$self" then self
  else if text = "$base" then base
  else
    match text.toList with
    | '#' :: name => named (String.ofList name)
    | cs =>
      match cs.dropWhile (· ≠ '#') with
      | [] => grammar text
      | _ :: name => entryOf (String.ofList (cs.takeWhile (· ≠ '#'))) (String.ofList name)

/-- The other grammar that the text of an include mentions. -/
def mentionedScope? (text : String) : Option String :=
  match text.toList with
  | '#' :: _ | '$' :: _ => none
  | cs =>
    let scope := cs.takeWhile (· ≠ '#')
    if scope = [] then none else some (String.ofList scope)

/-- The other grammars that an entry mentions, in the order of the text. -/
def Entry.mentions (e : Entry) : List String :=
  (e.reference.bind mentionedScope?).toList ++
    e.inside.attach.flatMap fun ⟨p, h⟩ =>
      have := Entry.sizeOf_inside_lt h
      p.2.mentions
termination_by sizeOf e

/-- A grammar as it is written. -/
structure Document where
  scopeName : Option String
  name : Option String
  patterns : List Entry
  repository : List (String × Entry)
  injections : List (String × Entry)
  injectionSelector : Option String
  fileTypes : List String
  firstLineMatch : Option String
  deriving Inhabited

namespace Document

/-- A document without any field. -/
def blank : Document := ⟨none, none, [], [], [], none, [], none⟩

/-- The other grammars that a document mentions, in ascending order. -/
def references (d : Document) : List String :=
  Dictionary.sortedKeys
    (d.patterns.flatMap Entry.mentions ++ d.repository.flatMap fun p => p.2.mentions)

end Document

end ScopeCheck
