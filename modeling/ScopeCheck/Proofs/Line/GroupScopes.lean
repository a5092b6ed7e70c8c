import ScopeCheck.Proofs.Grammar.Slots
import ScopeCheck.Proofs.Line.Labels

/-!
# The scopes of groups inside each other

Groups of a match that lie inside each other, the inner ones with the higher numbers, are left when
a group starts behind their ends, or with the match.  So a byte has the scopes of exactly the groups
around it.

* `Found.Nested` says how the groups have to lie;
* `GroupRules.scopesAround` lists the scopes of the groups around a byte, `OpenGroups.scopesFrom`
  those of the innermost open group that ends behind a position;
* `GroupsRead` says of some groups that have been gone through that the tokens up to here have the
  scopes of the groups around them, and that the open groups are those around what follows.  It is
  kept by moving on to a position (`GroupsRead.moveTo`), by entering a group (`GroupsRead.enter`),
  by one group after the other (`GroupsRead.step`), and so by a whole list of groups
  (`GroupsRead.captureScopes`);
* `Grammar.coverMatch_labels` is the result for every byte of a match.
-/

namespace ScopeCheck

open ScopeCheck.Text

variable {ρ : Type} {scanner : Scanner ρ} {text : Array Char} {atTextStart : Bool}
  {base : List String} {found : Found}

/-! ## Groups inside each other -/

/-- Whether a position is in a range. -/
def Span.holds (span : Span) (pos : Nat) : Bool := span.start ≤ pos && pos < span.stop

theorem Span.holds_iff {span : Span} {pos : Nat} :
    span.holds pos = true ↔ span.start ≤ pos ∧ pos < span.stop := by
  simp [Span.holds]

/-- The ranges of the groups that take part and are not empty, in the order of their numbers. -/
def Found.texts (found : Found) : List Span :=
  ((some found.whole :: found.groups).filterMap id).filter fun span => span.start ≠ span.stop

/-- Groups with a text lie inside the match, none starts before one with a lower number, and of two
that overlap the one with the higher number lies inside the other. -/
structure Found.Nested (found : Found) : Prop where
  inside : ∀ span ∈ found.texts,
    found.whole.start ≤ span.start ∧ span.start ≤ span.stop ∧ span.stop ≤ found.whole.stop
  ordered : found.texts.Pairwise fun lower higher => lower.start ≤ higher.start
  nested : found.texts.Pairwise fun lower higher =>
    lower.start < higher.stop → higher.start < lower.stop →
      lower.start ≤ higher.start ∧ higher.stop ≤ lower.stop

namespace Found

/-- The range of a group with a text. -/
structure HasText (found : Found) (number : Nat) (span : Span) : Prop where
  range : found.span? number = some span
  ne : span.start ≠ span.stop

theorem span?_eq (found : Found) (number : Nat) :
    found.span? number = ((some found.whole :: found.groups)[number]?).join := by
  cases number <;> rfl

theorem HasText.mem_texts {number : Nat} {span : Span} (h : found.HasText number span) :
    span ∈ found.texts := by
  refine List.mem_filter.2 ⟨List.mem_filterMap.2 ⟨some span, ?_, rfl⟩, by simpa using h.ne⟩
  have hrange := h.range
  rw [span?_eq] at hrange
  exact List.mem_of_getElem? (Option.join_eq_some_iff.1 hrange)

/-- What holds of the texts in their order holds of groups in the order of their numbers. -/
theorem pairwise_texts {R : Span → Span → Prop} (h : found.texts.Pairwise R) {m n : Nat}
    {lower higher : Span} (hmn : m < n) (hlower : found.HasText m lower)
    (hhigher : found.HasText n higher) : R lower higher := by
  rw [texts, List.pairwise_filter, List.pairwise_filterMap, List.pairwise_iff_getElem] at h
  have hm := hlower.range
  have hn := hhigher.range
  rw [span?_eq, Option.join_eq_some_iff] at hm hn
  obtain ⟨hmlt, hm⟩ := List.getElem?_eq_some_iff.1 hm
  obtain ⟨hnlt, hn⟩ := List.getElem?_eq_some_iff.1 hn
  exact h m n hmlt hnlt hmn lower hm higher hn (by simpa using hlower.ne)
    (by simpa using hhigher.ne)

end Found

/-! ## The scopes around a position -/

/-- The scopes that the rule of a group adds to what is around the positions in question. -/
def groupScopes (text : Array Char) (found : Found) (around : Span → Bool)
    (entry : Nat × GroupRule) : List String :=
  match found.span? entry.1, entry.2.name with
  | some span, some name => if around span then withName [] (some (name.fill text found)) else []
  | _, _ => []

/-- The scopes of the named groups around something, the group with the least number first. -/
def GroupRules.scopesAround (captures : GroupRules) (text : Array Char) (found : Found)
    (around : Span → Bool) : List String :=
  captures.flatMap (groupScopes text found around)

/-- The scopes of the innermost open group that ends behind a position; `base` are those outside. -/
def OpenGroups.scopesFrom (base : List String) : OpenGroups → Nat → List String
  | [], _ => base
  | (scopes, stop) :: outer, pos => if pos < stop then scopes else scopesFrom base outer pos

theorem groupScopes_eq_nil {around : Span → Bool} {entry : Nat × GroupRule}
    (h : ∀ span, found.span? entry.1 = some span → around span = false) :
    groupScopes text found around entry = [] := by
  unfold groupScopes
  split
  · rename_i span _ hspan _
    rw [if_neg (by simp [h span hspan])]
  · rfl

theorem GroupRules.scopesAround_congr {captures : GroupRules} {around around' : Span → Bool}
    (h : ∀ span, around span = around' span) :
    captures.scopesAround text found around = captures.scopesAround text found around' := by
  rw [funext h]

/-! ## Going through the groups -/

/-- The groups of `done` have been gone through, with `rest` still to come: the tokens inside the
match have the scopes of the groups around them, the open groups are the ones around what follows,
and nothing that follows starts before. -/
structure GroupsRead (text : Array Char) (base : List String) (found : Found)
    (done rest : GroupRules) (groups : OpenGroups) (out : Emitted) : Prop where
  tiles : Tiles out.tokens out.reached
  start_le : found.whole.start ≤ out.reached
  reached_le : out.reached ≤ found.whole.stop
  labels : ∀ t ∈ out.tokens, ∀ pos, t.start ≤ pos → pos < t.stop → found.whole.start ≤ pos →
    t.scopes = base ++ (done ++ rest).scopesAround text found (·.holds pos)
  follows : ∀ pos, out.reached ≤ pos →
    groups.scopesFrom base pos = base ++ done.scopesAround text found (·.holds pos)
  /-- The open groups have been gone through, and have started. -/
  opened : ∀ group ∈ groups, ∃ number span, found.HasText number span ∧ group.2 = span.stop ∧
    span.start ≤ out.reached ∧ ∀ p ∈ rest, number < p.1
  ahead : ∀ p ∈ rest, ∀ span, found.HasText p.1 span → out.reached ≤ span.start

namespace GroupsRead

/-- Before any group is gone through, all that has been emitted is in front of the match. -/
theorem start {captures : GroupRules} {out : Emitted} (hnested : found.Nested)
    (htiles : Tiles out.tokens out.reached) (hreached : out.reached = found.whole.start) :
    GroupsRead text base found [] captures [] out where
  tiles := htiles
  start_le := Nat.le_of_eq hreached.symm
  reached_le := by
    by_cases hempty : found.whole.start = found.whole.stop
    · exact Nat.le_of_eq (hreached.trans hempty)
    · have hwhole : found.HasText 0 found.whole := ⟨rfl, hempty⟩
      exact hreached ▸ (hnested.inside _ hwhole.mem_texts).2.1
  labels := by
    intro t ht pos _ hlast hpos
    have hstop := (htiles.stop_le t ht).2
    omega
  follows := fun _ _ => (List.append_nil base).symm
  opened := by
    intro group hgroup
    cases hgroup
  ahead := fun _ _ span htext => hreached ▸ (hnested.inside span htext.mem_texts).1

variable {done rest : GroupRules} {groups outer : OpenGroups} {out : Emitted}
  {scopes : List String} {start stop : Nat}

/-- In front of all groups that follow, the scopes are those of the groups that have been gone
through. -/
theorem scopesAround_append
    (hahead : ∀ p ∈ rest, ∀ span, found.HasText p.1 span → start ≤ span.start)
    {pos : Nat} (hpos : pos < start) :
    (done ++ rest).scopesAround text found (·.holds pos) =
      done.scopesAround text found (·.holds pos) := by
  have hrest : rest.flatMap (groupScopes text found (·.holds pos)) = [] := by
    rw [List.flatMap_eq_nil_iff]
    intro p hp
    refine groupScopes_eq_nil fun span hspan => Bool.eq_false_iff.2 fun hholds => ?_
    obtain ⟨hfirst, hlast⟩ := Span.holds_iff.1 hholds
    have hne : span.start ≠ span.stop := by omega
    have hbehind := hahead p hp span ⟨hspan, hne⟩
    omega
  rw [GroupRules.scopesAround, List.flatMap_append, hrest, List.append_nil,
    GroupRules.scopesAround]

/-- Up to a position in front of all that follows, the scopes of the groups around are given. -/
theorem upTo (h : GroupsRead text base found done rest groups out)
    (hscopes : ∀ pos, out.reached ≤ pos → pos < stop → groups.scopesFrom base pos = scopes)
    (hstop : stop ≤ found.whole.stop)
    (hahead : ∀ p ∈ rest, ∀ span, found.HasText p.1 span → stop ≤ span.start) :
    GroupsRead text base found done rest groups (out.upTo scopes stop) := by
  by_cases hle : stop ≤ out.reached
  · rwa [Emitted.upTo_of_le hle]
  · have hlt : out.reached ≤ stop := Nat.le_of_not_le hle
    have hreached := Emitted.reached_upTo hlt scopes
    refine ⟨Emitted.tiles_upTo h.tiles scopes stop, ?_, ?_, ?_, ?_, ?_, ?_⟩
    · rw [hreached]
      exact Nat.le_trans h.start_le hlt
    · rwa [hreached]
    · intro t ht pos hfirst hlast hpos
      rcases Emitted.mem_upTo ht with hearlier | rfl
      · exact h.labels t hearlier pos hfirst hlast hpos
      · rw [scopesAround_append hahead hlast, ← h.follows pos hfirst, hscopes pos hfirst hlast]
    · intro pos hpos
      rw [hreached] at hpos
      exact h.follows pos (Nat.le_trans hlt hpos)
    · intro group hgroup
      rw [hreached]
      obtain ⟨number, span, htext, hend, hstarted, hnumber⟩ := h.opened group hgroup
      exact ⟨number, span, htext, hend, Nat.le_trans hstarted hlt, hnumber⟩
    · rwa [hreached]

/-- A group that has ended is left. -/
theorem leave (h : GroupsRead text base found done rest ((scopes, stop) :: outer) out)
    (hstop : stop ≤ out.reached) : GroupsRead text base found done rest outer out where
  tiles := h.tiles
  start_le := h.start_le
  reached_le := h.reached_le
  labels := h.labels
  follows := by
    intro pos hpos
    rw [← h.follows pos hpos, OpenGroups.scopesFrom, if_neg (by omega)]
  opened := fun group hgroup => h.opened group (List.mem_cons_of_mem _ hgroup)
  ahead := h.ahead

/-- All groups that end at a position or before are left, and what is in front of it gets its
scopes.  The groups that stay open end behind it. -/
theorem moveTo (h : GroupsRead text base found done rest groups out)
    (hreached : out.reached ≤ start) (hstart : start ≤ found.whole.stop)
    (hahead : ∀ p ∈ rest, ∀ span, found.HasText p.1 span → start ≤ span.start) :
    ∃ open' emitted, closeGroups start groups out = (open', emitted) ∧
      GroupsRead text base found done rest open' (emitted.upTo (open'.scopes base) start) ∧
      (emitted.upTo (open'.scopes base) start).reached = start ∧
      ∀ group, open'.head? = some group → start < group.2 := by
  induction groups generalizing out with
  | nil =>
      refine ⟨[], out, rfl, h.upTo (fun _ _ _ => rfl) hstart hahead,
        Emitted.reached_upTo hreached _, ?_⟩
      intro group hgroup
      cases hgroup
  | cons group outer ih =>
      obtain ⟨scopes, stop⟩ := group
      rw [closeGroups]
      split
      · rename_i hended
        have hup : GroupsRead text base found done rest ((scopes, stop) :: outer)
            (out.upTo scopes stop) :=
          h.upTo (fun pos _ hpos => if_pos hpos) (Nat.le_trans hended hstart)
            (fun p hp span htext => Nat.le_trans hended (hahead p hp span htext))
        have hleft := hup.leave (Emitted.le_reached_upTo out scopes stop)
        refine ih hleft ?_
        unfold Emitted.upTo
        split
        · exact hreached
        · exact hended
      · rename_i hopen
        have hopen : start < stop := Nat.lt_of_not_le hopen
        refine ⟨(scopes, stop) :: outer, out, rfl, ?_, Emitted.reached_upTo hreached _, ?_⟩
        · exact h.upTo (fun pos _ hpos => if_pos (Nat.lt_trans hpos hopen)) hstart hahead
        · intro group hgroup
          obtain rfl := Option.some.inj hgroup
          exact hopen

/-- A group that adds no scopes is passed over. -/
theorem skip {entry : Nat × GroupRule}
    (h : GroupsRead text base found done (entry :: rest) groups out)
    (hnothing : ∀ pos, groupScopes text found (·.holds pos) entry = []) :
    GroupsRead text base found (done ++ [entry]) rest groups out where
  tiles := h.tiles
  start_le := h.start_le
  reached_le := h.reached_le
  labels := by
    simpa only [List.append_assoc, List.singleton_append] using h.labels
  follows := by
    intro pos hpos
    rw [h.follows pos hpos, GroupRules.scopesAround, GroupRules.scopesAround, List.flatMap_append,
      List.flatMap_singleton, hnothing, List.append_nil]
  opened := by
    intro group hgroup
    obtain ⟨number, span, htext, hend, hstarted, hnumber⟩ := h.opened group hgroup
    exact ⟨number, span, htext, hend, hstarted, (List.forall_mem_cons.1 hnumber).2⟩
  ahead := (List.forall_mem_cons.1 h.ahead).2

/-- All of a group that starts here has the scopes of the innermost open group around it, since it
lies inside this one. -/
theorem scopesFrom_of_nested {number : Nat} {rule : GroupRule} {span : Span}
    (h : GroupsRead text base found done ((number, rule) :: rest) groups out)
    (hnested : found.Nested) (htext : found.HasText number span)
    (hreached : out.reached = span.start)
    (hopen : ∀ group, groups.head? = some group → span.start < group.2) {pos : Nat}
    (hpos : pos < span.stop) : groups.scopesFrom base pos = groups.scopes base := by
  cases groups with
  | nil => rfl
  | cons group outer =>
      obtain ⟨lower, around, haround, hend, hstarted, hlower⟩ := h.opened group List.mem_cons_self
      have hbehind : span.start < around.stop := hend ▸ hopen group rfl
      have hlt : lower < number := hlower (number, rule) List.mem_cons_self
      have hstart := (hnested.inside span htext.mem_texts).2.1
      have hne := htext.ne
      have hfirst : around.start < span.stop := by omega
      obtain ⟨_, hstop⟩ :=
        Found.pairwise_texts hnested.nested hlt haround htext hfirst hbehind
      exact if_pos (by omega)

/-- What a named group adds behind its start are its scopes, up to its end. -/
theorem groupScopes_of_named {number : Nat} {rule : GroupRule} {span : Span} {name : Template}
    (htext : found.HasText number span) (hname : rule.name = some name) {pos : Nat}
    (hpos : span.start ≤ pos) : groupScopes text found (·.holds pos) (number, rule) =
      if pos < span.stop then withName [] (some (name.fill text found)) else [] := by
  have hholds : span.holds pos = decide (pos < span.stop) := by
    simp [Span.holds, hpos]
  simp only [groupScopes, htext.range, hname, hholds, decide_eq_true_eq]

/-- A named group that starts here is entered. -/
theorem enter {number : Nat} {rule : GroupRule} {span : Span} {name : Template}
    (h : GroupsRead text base found done ((number, rule) :: rest) groups out)
    (hnested : found.Nested) (hnumber : ∀ p ∈ rest, number < p.1)
    (htext : found.HasText number span) (hname : rule.name = some name)
    (hreached : out.reached = span.start)
    (hopen : ∀ group, groups.head? = some group → span.start < group.2) :
    GroupsRead text base found (done ++ [(number, rule)]) rest
      ((withName (groups.scopes base) (some (name.fill text found)), span.stop) :: groups)
      out where
  tiles := h.tiles
  start_le := h.start_le
  reached_le := h.reached_le
  labels := by
    simpa only [List.append_assoc, List.singleton_append] using h.labels
  follows := by
    intro pos hpos
    rw [OpenGroups.scopesFrom, GroupRules.scopesAround, List.flatMap_append,
      List.flatMap_singleton, groupScopes_of_named htext hname (hreached ▸ hpos),
      ← GroupRules.scopesAround]
    split
    · rename_i hinside
      rw [← List.append_assoc, ← h.follows pos hpos,
        h.scopesFrom_of_nested hnested htext hreached hopen hinside]
      rfl
    · rw [List.append_nil]
      exact h.follows pos hpos
  opened := by
    intro group hgroup
    rcases List.mem_cons.1 hgroup with rfl | hgroup
    · exact ⟨number, span, htext, rfl, Nat.le_of_eq hreached.symm, hnumber⟩
    · obtain ⟨lower, around, haround, hend, hstarted, hlower⟩ := h.opened group hgroup
      exact ⟨lower, around, haround, hend, hstarted, (List.forall_mem_cons.1 hlower).2⟩
  ahead := (List.forall_mem_cons.1 h.ahead).2

/-- At the end of the match all groups are left. -/
theorem finish (h : GroupsRead text base found done [] groups out) (hnested : found.Nested) :
    GroupsRead text base found done [] []
        ((closeAllGroups groups out).upTo base found.whole.stop) ∧
      ((closeAllGroups groups out).upTo base found.whole.stop).reached = found.whole.stop := by
  have hends : ∀ group ∈ groups, group.2 ≤ found.whole.stop := by
    intro group hgroup
    obtain ⟨number, span, htext, hend, _⟩ := h.opened group hgroup
    exact hend ▸ (hnested.inside span htext.mem_texts).2.2
  have hclosed : closeGroups found.whole.stop groups out = ([], closeAllGroups groups out) := by
    clear h
    induction groups generalizing out with
    | nil => rfl
    | cons group outer ih =>
        obtain ⟨hgroup, houter⟩ := List.forall_mem_cons.1 hends
        rw [closeGroups, if_pos hgroup]
        exact ih houter
  obtain ⟨open', emitted, hclose, hread, hreached, _⟩ := h.moveTo h.reached_le (Nat.le_refl _)
    (fun p hp => absurd hp List.not_mem_nil)
  obtain ⟨rfl, rfl⟩ := Prod.mk.inj (hclosed.symm.trans hclose)
  exact ⟨hread, hreached⟩

/-- One group is passed over, or what is in front of it gets its scopes and it is entered. -/
theorem step {entry : Nat × GroupRule}
    (h : GroupsRead text base found done (entry :: rest) groups out) (hnested : found.Nested)
    (hnumber : ∀ p ∈ rest, entry.1 < p.1) (hplain : entry.2.inner = none) :
    ∃ groups' out', ScopeCheck.captureScopes scanner text atTextStart base found (entry :: rest)
          groups out =
        ScopeCheck.captureScopes scanner text atTextStart base found rest groups' out' ∧
      GroupsRead text base found (done ++ [entry]) rest groups' out' := by
  obtain ⟨number, rule⟩ := entry
  rw [ScopeCheck.captureScopes]
  split
  · rename_i hspan
    refine ⟨groups, out, rfl, h.skip fun pos => groupScopes_eq_nil fun span hrange => ?_⟩
    cases hspan.symm.trans hrange
  · rename_i span hspan
    split
    · rename_i hempty
      refine ⟨groups, out, rfl, h.skip fun pos => groupScopes_eq_nil fun span' hrange => ?_⟩
      obtain rfl : span = span' := Option.some.inj (hspan.symm.trans hrange)
      -- An empty range holds nothing.
      refine Bool.eq_false_iff.2 fun hholds => ?_
      obtain ⟨hfirst, hlast⟩ := Span.holds_iff.1 hholds
      omega
    · rename_i hne
      have htext : found.HasText number span := ⟨hspan, hne⟩
      obtain ⟨_, hle, hstop⟩ := hnested.inside span htext.mem_texts
      have hstart : span.start ≤ found.whole.stop := Nat.le_trans hle hstop
      have hahead : ∀ p ∈ (number, rule) :: rest, ∀ later, found.HasText p.1 later →
          span.start ≤ later.start := by
        refine List.forall_mem_cons.2 ⟨fun later hlater => ?_, fun p hp later hlater => ?_⟩
        · obtain rfl : span = later := Option.some.inj (hspan.symm.trans hlater.range)
          exact Nat.le_refl _
        · exact Found.pairwise_texts hnested.ordered (hnumber p hp) htext hlater
      obtain ⟨open', emitted, hclose, hread, hreached, hopen⟩ :=
        h.moveTo (h.ahead _ List.mem_cons_self span htext) hstart hahead
      have hplain : rule.inner = none := hplain
      rw [if_neg (Nat.not_lt.2 hstart)]
      simp only [hclose, hplain]
      refine ⟨_, _, rfl, ?_⟩
      split
      · rename_i name hname
        exact hread.enter hnested hnumber htext hname hreached hopen
      · rename_i hname
        refine hread.skip fun pos => ?_
        simp only [groupScopes, hspan, hname]

/-- The induction is on the groups that follow; behind them all groups are left. -/
theorem captureScopes (h : GroupsRead text base found done rest groups out)
    (hnested : found.Nested) (hascending : rest.Ascending) (hplain : ∀ p ∈ rest, p.2.inner = none) :
    ∃ covered, ScopeCheck.captureScopes scanner text atTextStart base found rest groups out =
        .ok covered ∧
      GroupsRead text base found (done ++ rest) [] [] (covered.upTo base found.whole.stop) ∧
      (covered.upTo base found.whole.stop).reached = found.whole.stop := by
  induction rest generalizing done groups out with
  | nil =>
      rw [List.append_nil]
      exact ⟨_, rfl, h.finish hnested⟩
  | cons entry rest ih =>
      obtain ⟨hnumber, hascending⟩ := List.pairwise_cons.1 hascending
      obtain ⟨hfirst, hplain⟩ := List.forall_mem_cons.1 hplain
      obtain ⟨groups', out', hstep, hread⟩ := h.step hnested hnumber hfirst
      rw [hstep, ← List.singleton_append (l := rest), ← List.append_assoc]
      exact ih hread hascending hplain

end GroupsRead

/-! ## Every byte of a match -/

/-- A range with positions in bytes. -/
def Span.inBytes (text : Array Char) (span : Span) : Span :=
  ⟨byteLength (text.toList.take span.start), byteLength (text.toList.take span.stop)⟩

/-- A range holds the bytes of the characters that it holds. -/
theorem Span.holds_inBytes {i byte : Nat} (hfirst : byteLength (text.toList.take i) ≤ byte)
    (hlast : byte < byteLength (text.toList.take (i + 1))) (span : Span) :
    (span.inBytes text).holds byte = span.holds i := by
  rw [Bool.eq_iff_iff, Span.holds_iff, Span.holds_iff, Span.inBytes, byte_lt_iff hfirst hlast,
    ← Nat.not_lt, byte_lt_iff hfirst hlast, Nat.not_lt]

theorem Tiles.exists_mem {tokens : List Token} {reached pos : Nat} (h : Tiles tokens reached)
    (hpos : pos < reached) : ∃ t ∈ tokens, t.start ≤ pos ∧ pos < t.stop := by
  induction tokens generalizing reached with
  | nil =>
      obtain rfl : reached = 0 := h
      exact absurd hpos (Nat.not_lt_zero pos)
  | cons t earlier ih =>
      obtain ⟨rfl, _, hearlier⟩ := h
      rcases Nat.lt_or_ge pos t.start with hbefore | hbehind
      · obtain ⟨t', ht', hholds⟩ := ih hearlier hbefore
        exact ⟨t', List.mem_cons_of_mem t ht', hholds⟩
      · exact ⟨t, List.mem_cons_self, hbehind, hpos⟩

/-- Of a match whose groups lie inside each other, every byte gets the scopes outside and those of
the named groups around it, the group with the least number first.  The tokens cover each byte up
to the end of the match once. -/
theorem Grammar.coverMatch_labels {captures : GroupRules} {s : Scan ρ}
    (hplain : ∀ p ∈ captures, p.2.inner = none) (hascending : captures.Ascending)
    (hnested : found.Nested) (hinside : found.whole.stop ≤ text.size)
    (htiles : Tiles s.emitted.tokens s.emitted.reached)
    (hreached : s.emitted.reached = found.whole.start) :
    ∃ out, Grammar.coverMatch scanner text base captures found s =
        .ok { s with emitted := out } ∧
      let tokens := out.tokens.map (·.inBytes (byteOffsets text.toList))
      Tiles tokens (found.whole.inBytes text).stop ∧
      ∀ byte, (found.whole.inBytes text).holds byte = true →
        ∃ t ∈ tokens, t.start ≤ byte ∧ byte < t.stop ∧
          t.scopes = base ++
            captures.scopesAround text found fun span => (span.inBytes text).holds byte := by
  have hstart : GroupsRead text base found [] captures [] s.emitted :=
    GroupsRead.start hnested htiles hreached
  obtain ⟨covered, hcovered, hread, hend⟩ := hstart.captureScopes hnested hascending hplain
  rw [List.nil_append] at hread
  have hlength : found.whole.stop ≤ text.toList.length := hinside
  have hall := hread.tiles
  rw [hend] at hall
  refine ⟨covered.upTo base found.whole.stop, ?_, hall.inBytes hlength, ?_⟩
  · rw [Grammar.coverMatch, hcovered]
    rfl
  · intro byte hbyte
    -- The byte belongs to a character, and this one to a token.
    obtain ⟨i, hi, hfirst, hlast⟩ := exists_char_of_byte (Span.holds_iff.1 hbyte).2
    rw [Span.holds_inBytes hfirst hlast] at hbyte
    obtain ⟨t, ht, hstart, hstop⟩ := hall.exists_mem hi
    have hscopes := hread.labels t ht i hstart hstop (Span.holds_iff.1 hbyte).1
    obtain ⟨hlt, hle⟩ := hall.stop_le t ht
    refine ⟨_, List.mem_map_of_mem ht, ?_⟩
    rw [Token.inBytes_eq (Nat.le_trans (Nat.le_of_lt hlt) (Nat.le_trans hle hlength))
      (Nat.le_trans hle hlength)]
    refine ⟨Nat.le_trans (byteLength_take_le hstart) hfirst,
      (byte_lt_iff hfirst hlast _).2 hstop, ?_⟩
    rw [GroupRules.scopesAround_congr (Span.holds_inBytes hfirst hlast), hscopes,
      List.append_nil]

namespace Sample

/-- A match behind the first character, of which the groups 1 and 2 are the first three characters,
3 is empty, 4 has no part, 5 and 6 are the second and the third character, and 7 is what is left. -/
def layered : Found :=
  ⟨⟨1, 6⟩, [some ⟨1, 4⟩, some ⟨1, 4⟩, some ⟨2, 2⟩, none, some ⟨2, 3⟩, some ⟨3, 4⟩, some ⟨4, 6⟩]⟩

def layeredText : Array Char := #['-', 'é', 'a', 'x', 'b', 'c']

/-- The rules for these groups; that of group 5 has no name, and group 7 has no rule. -/
def layeredRules : GroupRules :=
  let named (raw : String) : GroupRule := ⟨some ⟨raw⟩, none, none⟩
  [(1, named "outer"), (2, named "same.$6"), (3, named "empty"), (4, named "absent"),
    (5, ⟨none, none, none⟩), (6, named "last")]

/-- A scan that has read the first character of its text. -/
def layeredScan : Scan (List Char) :=
  ⟨⟨1, none, true⟩, Stack.root 0 "s", ⟨[⟨0, 1, ["s"]⟩], 1⟩⟩

theorem layered_nested : layered.Nested where
  inside := by decide
  ordered := by decide
  nested := by decide

/-- The second character has two bytes. -/
theorem layeredRules_scopesAround : ∀ byte < 7, 1 ≤ byte →
    layeredRules.scopesAround layeredText layered (fun span =>
      (span.inBytes layeredText).holds byte) =
        if byte < 4 then ["outer", "same.x"]
        else if byte < 5 then ["outer", "same.x", "last"]
        else [] := by
  decide

end Sample

/-- Groups with the same text, an empty one, one without a part and ones without a name. -/
theorem Grammar.sample_coverMatch_labels :
    (∀ p ∈ Sample.layeredRules, p.2.inner = none) ∧ Sample.layeredRules.Ascending ∧
    Sample.layered.Nested ∧ Sample.layered.whole.stop ≤ Sample.layeredText.size ∧
    Tiles Sample.layeredScan.emitted.tokens Sample.layeredScan.emitted.reached ∧
    Sample.layeredScan.emitted.reached = Sample.layered.whole.start ∧
    ∃ out, Grammar.coverMatch (fun _ s => .ok s) Sample.layeredText ["s"] Sample.layeredRules
        Sample.layered Sample.layeredScan = .ok { Sample.layeredScan with emitted := out } ∧
      let tokens := out.tokens.map (·.inBytes (byteOffsets Sample.layeredText.toList))
      Tiles tokens 7 ∧
      ∀ byte, 1 ≤ byte → byte < 7 → ∃ t ∈ tokens, t.start ≤ byte ∧ byte < t.stop ∧
        t.scopes = ["s"] ++
          if byte < 4 then ["outer", "same.x"]
          else if byte < 5 then ["outer", "same.x", "last"]
          else [] := by
  have hplain : ∀ p ∈ Sample.layeredRules, p.2.inner = none := by decide
  have hascending : Sample.layeredRules.Ascending := by
    unfold GroupRules.Ascending
    decide
  have htiles : Tiles Sample.layeredScan.emitted.tokens Sample.layeredScan.emitted.reached :=
    ⟨rfl, Nat.zero_lt_one, rfl⟩
  have hwhole : Sample.layered.whole.inBytes Sample.layeredText = ⟨1, 7⟩ := by rfl
  refine ⟨hplain, hascending, Sample.layered_nested, Nat.le_refl 6, htiles, rfl, ?_⟩
  obtain ⟨out, hcovered, hbytes, hscopes⟩ : ∃ out, Grammar.coverMatch (fun _ s => .ok s)
      Sample.layeredText ["s"] Sample.layeredRules Sample.layered Sample.layeredScan = _ ∧ _ :=
    coverMatch_labels hplain hascending Sample.layered_nested (Nat.le_refl 6) htiles rfl
  rw [hwhole] at hbytes hscopes
  refine ⟨out, hcovered, hbytes, fun byte hstart hstop => ?_⟩
  rw [← Sample.layeredRules_scopesAround byte hstop hstart]
  exact hscopes byte (Span.holds_iff.2 ⟨hstart, hstop⟩)

end ScopeCheck
