import Mathlib.Data.List.TakeWhile
import ScopeCheck.Proofs.Line.GroupScopes
import ScopeCheck.Proofs.Line.Nesting
import ScopeCheck.Regex.Engine

/-!
# How far the tokens of captures reach

The groups of a match are gone through one after the other, up to the first one that starts behind
the match.  A group that starts no later may still end behind the match, as it does when it has been
set inside a look-ahead.  Then the tokens of the captures reach behind the match, and what later
steps match there stays without a token.

* `captureStep` goes through one group, and `captureScopes_eq` says that captures do so with the
  groups of `GroupRules.inReach`, one after the other;
* `CaptureMove` lists all that one group can lead to, and `foldlM_captureStep_keeps` carries what
  every group keeps to a list of groups;
* `Scanner.Fills`: the scan of a text emits tokens up to its end (`Grammar.scan_fills`);
* `ReachesBehind` says that the tokens of the groups so far reach behind a position, or will when
  the open groups are left.  `CaptureMove.reachesBehind` is what one group adds to it;
* `Grammar.captures_emit_behind_iff` is the result, for every position behind the match.
-/

namespace ScopeCheck

variable {ρ : Type} {engine : RegexEngine ρ} {g : Grammar ρ} {scanner : Scanner ρ}
  {text : Array Char} {atTextStart : Bool} {base : List String} {found : Found} {limit : Nat}

/-! ## One group after the other -/

/-- Groups that are open, and the tokens so far. -/
abbrev GroupState := OpenGroups × Emitted

/-- Whether a group has a text that starts behind the match. -/
def Found.startsBehind (found : Found) (number : Nat) : Bool :=
  match found.span? number with
  | none => false
  | some span => span.start ≠ span.stop && span.start > found.whole.stop

/-- The rules of the groups that are gone through: those in front of the first group that starts
behind the match. -/
def GroupRules.inReach (captures : GroupRules) (found : Found) : GroupRules :=
  captures.takeWhile fun entry => !found.startsBehind entry.1

/-- Leaves the groups that end at a position or before, and gives what is in front of it the scopes
of those that stay open. -/
def arriveAt (base : List String) (start : Nat) (state : GroupState) : GroupState :=
  let (groups, out) := closeGroups start state.1 state.2
  (groups, out.upTo (groups.scopes base) start)

/-- Goes through one group: its text is scanned, or it is entered. -/
def captureStep (scanner : Scanner ρ) (text : Array Char) (atTextStart : Bool) (base : List String)
    (found : Found) (state : GroupState) (entry : Nat × GroupRule) :
    Except ScanError GroupState :=
  match found.span? entry.1 with
  | none => .ok state
  | some span =>
    if span.start = span.stop then .ok state
    else
      let here := arriveAt base span.start state
      match entry.2.inner with
      | some container =>
        match scanner (text.extract 0 span.stop)
            (innerScan container base entry.2 text found atTextStart span.start here.2) with
        | .error e => .error e
        | .ok s => .ok (here.1, s.emitted)
      | none =>
        match entry.2.name with
        | some name =>
          .ok ((withName (here.1.scopes base) (some (name.fill text found)), span.stop) :: here.1,
            here.2)
        | none => .ok here

theorem startsBehind_of_mem_inReach {captures : GroupRules} {entry : Nat × GroupRule}
    (h : entry ∈ captures.inReach found) : found.startsBehind entry.1 = false := by
  simpa using List.mem_takeWhile_imp h

theorem Found.HasText.start_le {number : Nat} {span : Span} (h : found.HasText number span)
    (hreach : found.startsBehind number = false) : span.start ≤ found.whole.stop := by
  simpa [startsBehind, h.range, h.ne] using hreach

/-- Captures go through the groups in reach, and then leave all groups. -/
theorem captureScopes_eq (captures : GroupRules) (groups : OpenGroups) (out : Emitted) :
    captureScopes scanner text atTextStart base found captures groups out =
      ((captures.inReach found).foldlM (captureStep scanner text atTextStart base found)
        (groups, out)).map fun state => closeAllGroups state.1 state.2 := by
  induction captures generalizing groups out with
  | nil => rfl
  | cons entry rest ih =>
      obtain ⟨number, rule⟩ := entry
      have hgoesOn : found.startsBehind number = false →
          GroupRules.inReach ((number, rule) :: rest) found =
            (number, rule) :: GroupRules.inReach rest found := by
        intro hreach
        simp [GroupRules.inReach, hreach]
      rw [captureScopes]
      split
      · rename_i hspan
        rw [hgoesOn (by simp [Found.startsBehind, hspan]), List.foldlM_cons, captureStep, hspan, ih]
        rfl
      · rename_i span hspan
        split
        · rename_i hempty
          rw [hgoesOn (by simp [Found.startsBehind, hspan, hempty]), List.foldlM_cons,
            captureStep, hspan, ih]
          simp only [hempty, if_true]
          rfl
        · rename_i hne
          split
          · rename_i hbehind
            have hstop : GroupRules.inReach ((number, rule) :: rest) found = [] := by
              simp [GroupRules.inReach, Found.startsBehind, hspan, hne, hbehind]
            rw [hstop]
            rfl
          · rename_i hnot
            rw [hgoesOn (by simp [Found.startsBehind, hspan, Nat.le_of_not_lt hnot]),
              List.foldlM_cons, captureStep, hspan]
            simp only [hne, if_false, arriveAt]
            cases rule.inner with
            | none => cases rule.name <;> exact ih _ _
            | some container =>
                dsimp only
                generalize scanner (text.extract 0 span.stop) (innerScan container ..) = result
                cases result with
                | error => rfl
                | ok => exact ih _ _

/-- What going through a group can lead to. -/
inductive CaptureMove (scanner : Scanner ρ) (text : Array Char) (atTextStart : Bool)
    (base : List String) (found : Found) (state : GroupState) (entry : Nat × GroupRule) :
    GroupState → Prop
  | noText (htext : ∀ span, ¬ found.HasText entry.1 span) :
      CaptureMove scanner text atTextStart base found state entry state
  | scanned {span : Span} {container : RuleIndex} {s : Scan ρ}
      (htext : found.HasText entry.1 span) (hinner : entry.2.inner = some container)
      (hscan : scanner (text.extract 0 span.stop)
        (innerScan container base entry.2 text found atTextStart span.start
          (arriveAt base span.start state).2) = .ok s) :
      CaptureMove scanner text atTextStart base found state entry
        ((arriveAt base span.start state).1, s.emitted)
  | entered {span : Span} {name : Template} (htext : found.HasText entry.1 span)
      (hinner : entry.2.inner = none) (hname : entry.2.name = some name) :
      CaptureMove scanner text atTextStart base found state entry
        ((withName ((arriveAt base span.start state).1.scopes base)
          (some (name.fill text found)), span.stop) :: (arriveAt base span.start state).1,
          (arriveAt base span.start state).2)
  | passed {span : Span} (htext : found.HasText entry.1 span) (hinner : entry.2.inner = none)
      (hname : entry.2.name = none) :
      CaptureMove scanner text atTextStart base found state entry (arriveAt base span.start state)

theorem captureStep_move {state next : GroupState} {entry : Nat × GroupRule}
    (h : captureStep scanner text atTextStart base found state entry = .ok next) :
    CaptureMove scanner text atTextStart base found state entry next := by
  unfold captureStep at h
  split at h
  · rename_i hspan
    obtain rfl := Except.ok.inj h
    refine .noText fun span htext => ?_
    cases hspan.symm.trans htext.range
  · rename_i span hspan
    split at h
    · rename_i hempty
      obtain rfl := Except.ok.inj h
      refine .noText fun span' htext => ?_
      obtain rfl : span = span' := Option.some.inj (hspan.symm.trans htext.range)
      exact htext.ne hempty
    · rename_i hne
      have htext : found.HasText entry.1 span := ⟨hspan, hne⟩
      dsimp only at h
      split at h
      · rename_i container hinner
        split at h
        · cases h
        · rename_i s hscan
          obtain rfl := Except.ok.inj h
          exact .scanned htext hinner hscan
      · rename_i hinner
        split at h
        · rename_i name hname
          obtain rfl := Except.ok.inj h
          exact .entered htext hinner hname
        · rename_i hname
          obtain rfl := Except.ok.inj h
          exact .passed htext hinner hname

/-- What every group keeps, a list of groups keeps.  `I` speaks of the groups still to come. -/
theorem foldlM_captureStep_keeps {I : GroupRules → GroupState → Prop}
    (hstep : ∀ entry rest state next, I (entry :: rest) state →
      CaptureMove scanner text atTextStart base found state entry next → I rest next)
    {entries : GroupRules} {state last : GroupState} (hstate : I entries state)
    (h : entries.foldlM (captureStep scanner text atTextStart base found) state = .ok last) :
    I [] last := by
  induction entries generalizing state with
  | nil =>
      obtain rfl := Except.ok.inj h
      exact hstate
  | cons entry rest ih =>
      rw [List.foldlM_cons] at h
      obtain ⟨next, hnext, hrest⟩ := exists_of_bind_eq_ok h
      exact ih (hstep entry rest state next hstate (captureStep_move hnext)) hrest

/-! ## Tokens of groups and of scans -/

/-- The tokens so far tile the text that they reach. -/
def Emitted.Tiled (e : Emitted) : Prop := Tiles e.tokens e.reached

theorem Emitted.tiled_none : Emitted.none.Tiled := rfl

/-- What the scan of a text emits reaches up to the end of the text. -/
def Scanner.Fills (scanner : Scanner ρ) : Prop :=
  ∀ text s s', s.emitted.Tiled → scanner text s = .ok s' →
    s'.emitted.Tiled ∧ s'.emitted.reached = max s.emitted.reached text.size

theorem Emitted.reached_upTo_eq_max (e : Emitted) (scopes : List String) (stop : Nat) :
    (e.upTo scopes stop).reached = max e.reached stop := by
  unfold Emitted.upTo
  split
  · rename_i hle
    exact (Nat.max_eq_left hle).symm
  · rename_i hlt
    exact (Nat.max_eq_right (Nat.le_of_not_le hlt)).symm

/-- Tokens tile the text up to one position only. -/
theorem Tiles.reached_eq {tokens : List Token} {reached reached' : Nat} (h : Tiles tokens reached)
    (h' : Tiles tokens reached') : reached = reached' := by
  cases tokens with
  | nil => exact h.trans h'.symm
  | cons t earlier => exact h.1.symm.trans h'.1

/-- Tokens that are added come behind the earlier ones. -/
theorem Tiles.le_of_append {fresh earlier : List Token} {reached reached' : Nat}
    (h : Tiles (fresh ++ earlier) reached) (hearlier : Tiles earlier reached') :
    reached' ≤ reached := by
  induction fresh generalizing reached with
  | nil => exact Nat.le_of_eq (hearlier.reached_eq h)
  | cons t fresh ih =>
      obtain ⟨rfl, hlt, hrest⟩ := h
      exact Nat.le_trans (ih hrest) (Nat.le_of_lt hlt)

/-- Some of the tokens that are added end behind a position if the latest one does. -/
theorem Tiles.exists_behind_iff {fresh earlier : List Token} {reached reached' : Nat}
    (h : Tiles (fresh ++ earlier) reached) (hearlier : Tiles earlier reached') :
    (∃ t ∈ fresh, limit < t.stop) ↔ max limit reached' < reached := by
  cases fresh with
  | nil =>
      have hreached := hearlier.reached_eq h
      simp [hreached]
  | cons latest fresh =>
      obtain ⟨rfl, hlt, hrest⟩ := h
      have hle := hrest.le_of_append hearlier
      constructor
      · rintro ⟨t, ht, hlimit⟩
        have htiles : Tiles (latest :: (fresh ++ earlier)) latest.stop := ⟨rfl, hlt, hrest⟩
        have hstop := (htiles.stop_le t (List.mem_append_left earlier ht)).2
        omega
      · intro hbehind
        exact ⟨latest, List.mem_cons_self, by omega⟩

theorem Grammar.scan_fills (hengine : engine.StaysInside) (depth : Nat) :
    Scanner.Fills (g.scan engine depth) := by
  intro text s s' htiles hscan
  obtain ⟨hafter, hle⟩ := scan_staysBelow hengine depth (max s.emitted.reached text.size) text s s'
    (Nat.le_max_right _ _) ⟨htiles, Nat.le_max_left _ _⟩ hscan
  have hunder : s.stack.Under [] := fun _ _ => ⟨List.nil_prefix, List.nil_prefix⟩
  refine ⟨hafter, Nat.le_antisymm hle (Nat.max_le.2 ⟨?_, ?_⟩)⟩
  · obtain ⟨fresh, htokens, _⟩ := (scan_extends hunder hscan).1
    exact (htokens ▸ hafter).le_of_append htiles
  · obtain ⟨_, _, _, _, _, hhalt⟩ := scan_eq_ok hscan
    exact (step_move hhalt).size_le_reached

theorem closeGroups_tiled (start : Nat) (groups : OpenGroups) {out : Emitted} (h : out.Tiled) :
    (closeGroups start groups out).2.Tiled := by
  induction groups generalizing out with
  | nil => exact h
  | cons group outer ih =>
      obtain ⟨scopes, stop⟩ := group
      rw [closeGroups]
      split
      · exact ih (Emitted.tiles_upTo h scopes stop)
      · exact h

theorem closeAllGroups_tiled (groups : OpenGroups) {out : Emitted} (h : out.Tiled) :
    (closeAllGroups groups out).Tiled := by
  induction groups generalizing out with
  | nil => exact h
  | cons group outer ih => exact ih (Emitted.tiles_upTo h group.1 group.2)

theorem arriveAt_tiled (base : List String) (start : Nat) {state : GroupState}
    (h : state.2.Tiled) : (arriveAt base start state).2.Tiled :=
  Emitted.tiles_upTo (closeGroups_tiled start state.1 h) _ _

/-- What is scanned of a text that holds the group ends where the group does. -/
theorem scanned_reached (hscanner : scanner.Fills)
    (hinside : ∀ span ∈ found.texts, span.stop ≤ text.size) {number : Nat} {span : Span}
    {s s' : Scan ρ} (htext : found.HasText number span) (htiled : s.emitted.Tiled)
    (hscan : scanner (text.extract 0 span.stop) s = .ok s') :
    s'.emitted.Tiled ∧ s'.emitted.reached = max s.emitted.reached span.stop := by
  have hsize : (text.extract 0 span.stop).size = span.stop := by
    simpa using hinside span htext.mem_texts
  obtain ⟨hafter, hreached⟩ := hscanner _ s s' htiled hscan
  exact ⟨hafter, hsize ▸ hreached⟩

theorem CaptureMove.tiled (hscanner : scanner.Fills) {state next : GroupState}
    {entry : Nat × GroupRule}
    (hmove : CaptureMove scanner text atTextStart base found state entry next)
    (h : state.2.Tiled) : next.2.Tiled := by
  cases hmove with
  | noText => exact h
  | scanned _ _ hscan => exact (hscanner _ _ _ (arriveAt_tiled base _ h) hscan).1
  | entered => exact arriveAt_tiled base _ h
  | passed => exact arriveAt_tiled base _ h

/-! ## Positions behind the match -/

/-- The tokens reach behind a position, or will do so when the open groups are left. -/
def ReachesBehind (limit : Nat) (state : GroupState) : Prop :=
  limit < state.2.reached ∨ ∃ group ∈ state.1, limit < group.2

/-- A group has a text that ends behind a position, and a rule that gives it scopes. -/
def Found.EmitsBehind (found : Found) (limit : Nat) (entry : Nat × GroupRule) : Prop :=
  ∃ span, found.HasText entry.1 span ∧ (entry.2.name.isSome ∨ entry.2.inner.isSome) ∧
    limit < span.stop

theorem reachesBehind_cons {group : List String × Nat} {groups : OpenGroups} {out : Emitted} :
    ReachesBehind limit (group :: groups, out) ↔
      ReachesBehind limit (groups, out) ∨ limit < group.2 := by
  simp only [ReachesBehind, List.exists_mem_cons_iff]
  exact (or_congr_right or_comm).trans or_assoc.symm

/-- Tokens up to a position add that position. -/
theorem reachesBehind_of_max {groups : OpenGroups} {out after : Emitted} {stop : Nat}
    (h : after.reached = max out.reached stop) :
    ReachesBehind limit (groups, after) ↔ ReachesBehind limit (groups, out) ∨ limit < stop := by
  have hmax : limit < max out.reached stop ↔ limit < out.reached ∨ limit < stop := by omega
  simp only [ReachesBehind, h, hmax]
  exact or_right_comm

/-- Scopes for the text up to a position in front do not matter. -/
theorem reachesBehind_upTo {groups : OpenGroups} {out : Emitted} {scopes : List String}
    {stop : Nat} (hstop : stop ≤ limit) :
    ReachesBehind limit (groups, out.upTo scopes stop) ↔ ReachesBehind limit (groups, out) :=
  (reachesBehind_of_max (out.reached_upTo_eq_max scopes stop)).trans
    (or_iff_left (Nat.not_lt.2 hstop))

theorem closeGroups_reachesBehind {start : Nat} (hstart : start ≤ limit) (groups : OpenGroups)
    (out : Emitted) : ReachesBehind limit (closeGroups start groups out) ↔
      ReachesBehind limit (groups, out) := by
  induction groups generalizing out with
  | nil => rfl
  | cons group outer ih =>
      obtain ⟨scopes, stop⟩ := group
      rw [closeGroups]
      split
      · rename_i hended
        have hstop : stop ≤ limit := Nat.le_trans hended hstart
        rw [ih, reachesBehind_upTo hstop, reachesBehind_cons, or_iff_left (Nat.not_lt.2 hstop)]
      · rfl

theorem closeAllGroups_reachesBehind (groups : OpenGroups) (out : Emitted) :
    limit < (closeAllGroups groups out).reached ↔ ReachesBehind limit (groups, out) := by
  induction groups generalizing out with
  | nil => simp [closeAllGroups, ReachesBehind]
  | cons group outer ih =>
      have hleave : closeAllGroups (group :: outer) out =
          closeAllGroups outer (out.upTo group.1 group.2) := rfl
      rw [hleave, ih, reachesBehind_cons,
        reachesBehind_of_max (out.reached_upTo_eq_max group.1 group.2)]

theorem arriveAt_reachesBehind {start : Nat} (hstart : start ≤ limit) (state : GroupState) :
    ReachesBehind limit (arriveAt base start state) ↔ ReachesBehind limit state :=
  (reachesBehind_upTo hstart).trans (closeGroups_reachesBehind hstart state.1 state.2)

/-- Of the group with this text, only its rule and its end matter. -/
theorem Found.HasText.emitsBehind_iff {entry : Nat × GroupRule} {span : Span}
    (h : found.HasText entry.1 span) : found.EmitsBehind limit entry ↔
      (entry.2.name.isSome ∨ entry.2.inner.isSome) ∧ limit < span.stop := by
  constructor
  · rintro ⟨span', h', hrule⟩
    obtain rfl : span = span' := Option.some.inj (h.range.symm.trans h'.range)
    exact hrule
  · exact fun hrule => ⟨span, h, hrule⟩

/-- One group adds its own end, if its rule gives its text scopes. -/
theorem CaptureMove.reachesBehind (hscanner : scanner.Fills)
    (hinside : ∀ span ∈ found.texts, span.stop ≤ text.size) (hlimit : found.whole.stop ≤ limit)
    {state next : GroupState} {entry : Nat × GroupRule}
    (hmove : CaptureMove scanner text atTextStart base found state entry next)
    (hreach : found.startsBehind entry.1 = false) (htiled : state.2.Tiled) :
    ReachesBehind limit next ↔ ReachesBehind limit state ∨ found.EmitsBehind limit entry := by
  have hstart : ∀ {span}, found.HasText entry.1 span → span.start ≤ limit := fun htext =>
    Nat.le_trans (htext.start_le hreach) hlimit
  cases hmove with
  | noText htext => exact (or_iff_left fun ⟨span, hspan, _⟩ => htext span hspan).symm
  | @scanned span container s htext hinner hscan =>
      have hreached := (scanned_reached hscanner hinside htext
        (arriveAt_tiled base span.start htiled) hscan).2
      rw [reachesBehind_of_max hreached, innerScan, arriveAt_reachesBehind (hstart htext),
        htext.emitsBehind_iff, hinner]
      simp
  | entered htext _ hname =>
      rw [reachesBehind_cons, arriveAt_reachesBehind (hstart htext), htext.emitsBehind_iff, hname]
      simp
  | passed htext hinner hname =>
      rw [arriveAt_reachesBehind (hstart htext), htext.emitsBehind_iff, hname, hinner]
      simp

/-- The groups that are gone through add their ends. -/
theorem foldlM_captureStep_reachesBehind (hscanner : scanner.Fills)
    (hinside : ∀ span ∈ found.texts, span.stop ≤ text.size) (hlimit : found.whole.stop ≤ limit)
    {entries : GroupRules} {state last : GroupState}
    (hreach : ∀ entry ∈ entries, found.startsBehind entry.1 = false) (htiled : state.2.Tiled)
    (h : entries.foldlM (captureStep scanner text atTextStart base found) state = .ok last) :
    last.2.Tiled ∧ (ReachesBehind limit last ↔
      ReachesBehind limit state ∨ ∃ entry ∈ entries, found.EmitsBehind limit entry) := by
  -- What is reached so far and what the groups still to come add stays the same together.
  have hkept := foldlM_captureStep_keeps (I := fun rest current => current.2.Tiled ∧
    (∀ entry ∈ rest, found.startsBehind entry.1 = false) ∧
    ((ReachesBehind limit current ∨ ∃ entry ∈ rest, found.EmitsBehind limit entry) ↔
      ReachesBehind limit state ∨ ∃ entry ∈ entries, found.EmitsBehind limit entry))
    ?_ ⟨htiled, hreach, Iff.rfl⟩ h
  · obtain ⟨hlast, _, hsame⟩ := hkept
    exact ⟨hlast, by simpa using hsame⟩
  · rintro entry rest current next ⟨hcurrent, hahead, hsame⟩ hmove
    obtain ⟨hentry, hrest⟩ := List.forall_mem_cons.1 hahead
    refine ⟨hmove.tiled hscanner hcurrent, hrest, ?_⟩
    rw [hmove.reachesBehind hscanner hinside hlimit hentry hcurrent, ← hsame,
      List.exists_mem_cons_iff, or_assoc]

/-- The captures of a match emit a token that ends behind a position which is not in front of the
end of the match if, and only if, some group that is gone through has a rule with a name or with
patterns, ends behind the position, and ends behind what has been emitted before.  So they keep to
the match if, and only if, none of these groups ends behind it. -/
theorem Grammar.captures_emit_behind_iff (hengine : engine.StaysInside) {depth : Nat}
    (hinside : ∀ span ∈ found.texts, span.stop ≤ text.size) {captures : GroupRules}
    {before after : Emitted} (htiled : before.Tiled)
    (h : captureScopes (g.scan engine depth) text atTextStart base found captures [] before =
      .ok after) :
    ∃ fresh, after.tokens = fresh ++ before.tokens ∧ ∀ limit, found.whole.stop ≤ limit →
      ((∃ t ∈ fresh, limit < t.stop) ↔ ∃ entry ∈ captures.inReach found, ∃ span,
        found.HasText entry.1 span ∧ (entry.2.name.isSome ∨ entry.2.inner.isSome) ∧
          limit < span.stop ∧ before.reached < span.stop) := by
  obtain ⟨fresh, htokens, _⟩ := captureScopes_extends (scan_keepsScopes depth) h
  rw [captureScopes_eq] at h
  obtain ⟨last, hlast, rfl⟩ := exists_of_map_eq_ok h
  refine ⟨fresh, htokens, fun limit hlimit => ?_⟩
  have hmax : found.whole.stop ≤ max limit before.reached :=
    Nat.le_trans hlimit (Nat.le_max_left _ _)
  obtain ⟨hlastTiled, hall⟩ := foldlM_captureStep_reachesBehind (scan_fills hengine depth)
    hinside hmax (fun _ => startsBehind_of_mem_inReach) htiled hlast
  have hafter : Tiles (fresh ++ before.tokens) (closeAllGroups last.1 last.2).reached :=
    htokens ▸ (closeAllGroups_tiled last.1 hlastTiled : Tiles _ _)
  have hbefore : ¬ ReachesBehind (max limit before.reached) ([], before) := by
    rintro (hlt | ⟨group, hgroup, _⟩)
    · exact absurd hlt (Nat.not_lt.2 (Nat.le_max_right _ _))
    · cases hgroup
  rw [hafter.exists_behind_iff htiled, closeAllGroups_reachesBehind, hall, or_iff_right hbefore]
  simp only [Found.EmitsBehind, Nat.max_lt]

/-! ## A group in a look-ahead -/

namespace Sample

/-- A match of the first character, of which group 1 is this character, group 2 starts where it ends
and group 3 starts behind it. -/
def overlapping : Found := ⟨⟨0, 1⟩, [some ⟨0, 1⟩, some ⟨1, 3⟩, some ⟨2, 3⟩]⟩

/-- The rules for these groups; the text of group 2 is scanned with the small grammar. -/
def overlappingRules : GroupRules :=
  [(1, ⟨some ⟨"first"⟩, none, none⟩), (2, ⟨some ⟨"ahead"⟩, none, some 2⟩),
    (3, ⟨some ⟨"behind"⟩, none, none⟩)]

/-- What is emitted for these groups in `ab<`. -/
def overlappingTokens : List Token :=
  [⟨2, 3, ["s", "ahead", "lt"]⟩, ⟨1, 2, ["s", "ahead"]⟩, ⟨0, 1, ["s", "first"]⟩]

/-- Its first rule matches an `a` that stands in front of a `b`, which becomes group 1; the second
rule matches a `b`. -/
def aheadGrammar : Grammar Regex where
  scopeName := "s"
  rules :=
    let pattern := Pattern.ofSource Regex.engine
    #[⟨none, none, .container [1, 2]⟩,
      ⟨none, none, .single (pattern "a(?=(b))") [(1, ⟨some ⟨"ahead"⟩, none, none⟩)]⟩,
      ⟨some ⟨"late"⟩, none, .single (pattern "b") []⟩]
  root := 0
  entries := #[[1, 2], [], []]

/-- The match of the first rule in `ab`. -/
def aheadMatch : Found := ⟨⟨0, 1⟩, [some ⟨1, 2⟩]⟩

end Sample

namespace Grammar

/-- The text of group 2 reaches two characters behind the match. -/
theorem sample_captures_emit_behind_iff :
    RegexEngine.literal.StaysInside ∧
    (∀ span ∈ Sample.overlapping.texts, span.stop ≤ (lineText "ab<").size) ∧
    Emitted.none.Tiled ∧
    captureScopes (Sample.grammar.scan .literal 1) (lineText "ab<") true ["s"] Sample.overlapping
      Sample.overlappingRules [] .none = .ok ⟨Sample.overlappingTokens, 3⟩ ∧
    ∃ fresh, Sample.overlappingTokens = fresh ++ [] ∧ ∀ limit, 1 ≤ limit →
      ((∃ t ∈ fresh, limit < t.stop) ↔
        ∃ entry ∈ Sample.overlappingRules.inReach Sample.overlapping, ∃ span,
          Sample.overlapping.HasText entry.1 span ∧
            (entry.2.name.isSome ∨ entry.2.inner.isSome) ∧ limit < span.stop ∧ 0 < span.stop) := by
  have hinside : ∀ span ∈ Sample.overlapping.texts, span.stop ≤ (lineText "ab<").size := by
    decide
  have hcaptures : captureScopes (Sample.grammar.scan .literal 1) (lineText "ab<") true ["s"]
      Sample.overlapping Sample.overlappingRules [] .none =
        .ok ⟨Sample.overlappingTokens, 3⟩ := by
    rfl
  exact ⟨RegexEngine.literal_staysInside, hinside, Emitted.tiled_none, hcaptures,
    captures_emit_behind_iff RegexEngine.literal_staysInside hinside Emitted.tiled_none
      hcaptures⟩

/-- The captures of a match of one character emit a token for the next one, and the rule that would
match there gives it no scope. -/
theorem captures_emit_behind_match :
    Sample.aheadGrammar.next Regex.engine (lineText "ab") ⟨0, none, true⟩
        (Stack.root 0 "s").top = .ok (some (.rule 1, Sample.aheadMatch)) ∧
    (∃ after, captureScopes (Sample.aheadGrammar.scan Regex.engine 1) (lineText "ab") true ["s"]
        Sample.aheadMatch (Sample.aheadGrammar.rule 1).entryCaptures [] .none = .ok after ∧
      ∃ t ∈ after.tokens, Sample.aheadMatch.whole.stop < t.stop) ∧
    (Sample.aheadGrammar.tokenize Regex.engine "ab" .initial).toOption.map LineResult.tokens =
      some [⟨0, 1, ["s"]⟩, ⟨1, 2, ["s", "ahead"]⟩] := by
  refine ⟨by decide +kernel, ⟨⟨[⟨1, 2, ["s", "ahead"]⟩, ⟨0, 1, ["s"]⟩], 2⟩, rfl, ?_⟩,
    by decide +kernel⟩
  exact ⟨_, List.mem_cons_self, by decide⟩

end Grammar

end ScopeCheck
