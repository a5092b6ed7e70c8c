import ScopeCheck.Line.Scan

/-!
# What is relied on of an engine

The engine is a parameter of the library.  Two promises about it are named here:

* `RegexEngine.SearchesForward`: a match starts where the search starts or later, and its range
  lies inside the text;
* `RegexEngine.StaysInside`: the ranges of the groups lie inside the text as well.

They are carried from one search to the choice among all candidates by `Grammar.next_ahead` and
`Grammar.next_groupsInside`.  `RegexEngine.literal`, which reads every source as the text to be
found, keeps both.
-/

namespace ScopeCheck

variable {ρ : Type}

/-- A match of a search from `pos` on, inside a text of `size` characters. -/
structure Found.Ahead (found : Found) (size pos : Nat) : Prop where
  pos_le : pos ≤ found.whole.start
  start_le : found.whole.start ≤ found.whole.stop
  stop_le : found.whole.stop ≤ size

/-- The ranges of the groups lie inside a text of `size` characters. -/
def Found.GroupsInside (found : Found) (size : Nat) : Prop :=
  ∀ span, some span ∈ found.groups → span.start ≤ size ∧ span.stop ≤ size

/-- Matches start where the search starts or later and end inside the text. -/
def RegexEngine.SearchesForward (engine : RegexEngine ρ) : Prop :=
  ∀ regex text start found, engine.search regex text start = some found →
    found.Ahead text.size start

/-- Matches are forward, and the ranges of their groups lie inside the text. -/
def RegexEngine.StaysInside (engine : RegexEngine ρ) : Prop :=
  ∀ regex text start found, engine.search regex text start = some found →
    found.Ahead text.size start ∧ found.GroupsInside text.size

theorem RegexEngine.StaysInside.searchesForward {engine : RegexEngine ρ}
    (hengine : engine.StaysInside) : engine.SearchesForward :=
  fun regex text start found hfound => (hengine regex text start found hfound).1

/-- Every range that a match gives to a number lies inside the text. -/
theorem Found.span?_inside {found : Found} {size pos : Nat} (hahead : found.Ahead size pos)
    (hgroups : found.GroupsInside size) {number : Nat} {span : Span}
    (hspan : found.span? number = some span) : span.start ≤ size ∧ span.stop ≤ size := by
  cases number with
  | zero =>
      obtain rfl : found.whole = span := Option.some.inj hspan
      exact ⟨Nat.le_trans hahead.start_le hahead.stop_le, hahead.stop_le⟩
  | succ index =>
      have hmem : some span ∈ found.groups :=
        List.mem_of_getElem? (Option.join_eq_some_iff.1 hspan)
      exact hgroups span hmem

/-- What a pattern finds is what the engine finds with one of its variants. -/
theorem Pattern.search_eq_some {engine : RegexEngine ρ} {p : Pattern ρ} {q : Query}
    {found : Found} (h : p.search engine q = .ok (some found)) :
    q.start ≤ q.text.size ∧ ∃ regex, engine.search regex q.text q.start = some found := by
  unfold Pattern.search at h
  split at h
  · cases h
  · rename_i hstart
    split at h
    · rename_i regex _
      exact ⟨Nat.le_of_not_gt hstart, regex, Except.ok.inj h⟩
    · cases h

/-! ## The choice among candidates -/

/-- The match that is chosen was there before or is one of a candidate in the list. -/
theorem firstOf_eq_some {search : Pattern ρ → Except PatternError (Option Found)} {pos : Nat}
    {candidates : List (Candidate × Pattern ρ)} {best : Option (Candidate × Found)}
    {chosen : Candidate × Found}
    (h : firstOf search pos best candidates = .ok (some chosen)) :
    best = some chosen ∨
      ∃ pattern, (chosen.1, pattern) ∈ candidates ∧ search pattern = .ok (some chosen.2) := by
  induction candidates generalizing best with
  | nil => exact Or.inl (Except.ok.inj h)
  | cons head rest ih =>
      obtain ⟨candidate, pattern⟩ := head
      rw [firstOf] at h
      split at h
      · cases h
      · rcases ih h with hbest | ⟨p, hmem, hsearch⟩
        · exact Or.inl hbest
        · exact Or.inr ⟨p, List.mem_cons_of_mem _ hmem, hsearch⟩
      · rename_i found hfound
        -- Whether the new match is taken or not, it or the old one is the choice so far.
        have hchoice : ∀ better : Bool,
            (if better then some (candidate, found) else best) = some chosen →
              best = some chosen ∨ ∃ p, (chosen.1, p) ∈ (candidate, pattern) :: rest ∧
                search p = .ok (some chosen.2) := by
          intro better hbetter
          cases better with
          | false => exact Or.inl (by simpa using hbetter)
          | true =>
              obtain rfl : (candidate, found) = chosen := by simpa using hbetter
              exact Or.inr ⟨pattern, List.mem_cons_self, hfound⟩
        simp only at h
        split at h
        · exact hchoice _ (Except.ok.inj h)
        · rcases ih h with hbest | ⟨p, hmem, hsearch⟩
          · exact hchoice _ hbest
          · exact Or.inr ⟨p, List.mem_cons_of_mem _ hmem, hsearch⟩

namespace Grammar

variable {engine : RegexEngine ρ} {g : Grammar ρ} {text : Array Char} {point : ScanPoint}
  {frame : Frame ρ} {candidate : Candidate} {found : Found}

/-- What is matched at a point is a match of a candidate that is tried there. -/
theorem next_eq_some (h : g.next engine text point frame = .ok (some (candidate, found))) :
    ∃ pattern, (candidate, pattern) ∈ g.candidates frame ∧
      pattern.search engine (point.query text) = .ok (some found) := by
  rcases firstOf_eq_some h with hnone | hfound
  · cases hnone
  · exact hfound

theorem next_ahead (hengine : engine.SearchesForward)
    (h : g.next engine text point frame = .ok (some (candidate, found))) :
    found.Ahead text.size point.pos := by
  obtain ⟨pattern, _, hsearch⟩ := next_eq_some h
  obtain ⟨_, regex, hregex⟩ := Pattern.search_eq_some hsearch
  exact hengine regex text point.pos found hregex

theorem next_groupsInside (hengine : engine.StaysInside)
    (h : g.next engine text point frame = .ok (some (candidate, found))) :
    found.GroupsInside text.size := by
  obtain ⟨pattern, _, hsearch⟩ := next_eq_some h
  obtain ⟨_, regex, hregex⟩ := Pattern.search_eq_some hsearch
  exact (hengine regex text point.pos found hregex).2

end Grammar

/-! ## An engine for plain texts -/

/-- The first place, from a position on, where a word stands in a text. -/
def literalSearch (word : List Char) (text : Array Char) (start : Nat) : Option Found :=
  ((List.range (text.size + 1)).find? fun pos =>
    start ≤ pos && word.isPrefixOf (text.toList.drop pos)).map fun pos =>
      ⟨⟨pos, pos + word.length⟩, []⟩

/-- The engine that reads every source as the text to be found. -/
def RegexEngine.literal : RegexEngine (List Char) where
  compile source := .ok source.toList
  search := literalSearch

theorem RegexEngine.literal_staysInside : RegexEngine.literal.StaysInside := by
  intro word text start found hfound
  obtain ⟨pos, hpos, rfl⟩ := Option.map_eq_some_iff.1 hfound
  have hword := List.find?_some hpos
  simp only [Bool.and_eq_true, decide_eq_true_eq, List.isPrefixOf_iff_prefix] at hword
  have hlength := hword.2.length_le
  have hrange := List.mem_range.1 (List.mem_of_find?_eq_some hpos)
  rw [List.length_drop, text.length_toList] at hlength
  refine ⟨⟨hword.1, Nat.le_add_right _ _, ?_⟩, ?_⟩
  · show pos + word.length ≤ text.size
    omega
  · intro span hspan
    cases hspan

end ScopeCheck
