import ScopeCheck.Line.Scan

/-!
# What captures do to the tokens of a line

The groups of a match extend the tokens that have been emitted, and they start scans of their own.
Two facts are enough for everything that follows:

* `Covers.preserves`: what holds of the emitted tokens holds after the captures of a match, if it
  is kept by every extension up to a bound of a group and by every scan of captured text;
* `Starts.ofCaptures`: a scan that is started by captures is the scan of the text of a group that
  has patterns, with a stack of one frame.

A scan counts as started by a computation when a failure of that scan alone is the failure of the
computation.
-/

namespace ScopeCheck

variable {ρ α β : Type} {scanner : Scanner ρ} {text : Array Char} {atTextStart : Bool}
  {base : List String} {found : Found} {captures : GroupRules}

/-- A position at which some group of a match starts or stops. -/
def Found.IsBound (found : Found) (pos : Nat) : Prop :=
  ∃ number span, found.span? number = some span ∧ (pos = span.start ∨ pos = span.stop)

theorem Found.isBound_start {found : Found} {number : Nat} {span : Span}
    (h : found.span? number = some span) : found.IsBound span.start :=
  ⟨number, span, h, Or.inl rfl⟩

theorem Found.isBound_stop {found : Found} {number : Nat} {span : Span}
    (h : found.span? number = some span) : found.IsBound span.stop :=
  ⟨number, span, h, Or.inr rfl⟩

/-- The captures of a match and the rest of it have been given their scopes. -/
def Covers (scanner : Scanner ρ) (text : Array Char) (atTextStart : Bool) (base : List String)
    (captures : GroupRules) (found : Found) (before after : Emitted) : Prop :=
  ∃ covered,
    captureScopes scanner text atTextStart base found captures [] before = .ok covered ∧
      after = covered.upTo base found.whole.stop

/-- The open groups have scopes that go on from `base` and end at bounds of the match. -/
def OpenGroups.From (base : List String) (found : Found) (groups : OpenGroups) : Prop :=
  ∀ group ∈ groups, base <+: group.1 ∧ found.IsBound group.2

/-- The scopes inside the open groups go on from `base`. -/
theorem OpenGroups.From.prefix_scopes {groups : OpenGroups} (h : groups.From base found) :
    base <+: groups.scopes base := by
  cases groups with
  | nil => exact List.prefix_refl base
  | cons group rest => exact (h group List.mem_cons_self).1

/-- A name only adds scopes at the end. -/
theorem prefix_withName (scopes : List String) (name : Option (List Char)) :
    scopes <+: withName scopes name := by
  cases name with
  | none => exact List.prefix_refl scopes
  | some name => exact List.prefix_append _ _

section Preserved

variable {P : Emitted → Prop}
  (hupTo : ∀ out scopes pos, P out → base <+: scopes → found.IsBound pos → P (out.upTo scopes pos))

include hupTo

theorem closeGroups_preserves (start : Nat) {groups : OpenGroups} {out : Emitted}
    (hgroups : groups.From base found) (hout : P out) :
    (closeGroups start groups out).1.From base found ∧ P (closeGroups start groups out).2 := by
  induction groups generalizing out with
  | nil => exact ⟨hgroups, hout⟩
  | cons group outer ih =>
      obtain ⟨scopes, stop⟩ := group
      rw [closeGroups]
      split
      · obtain ⟨hscopes, hstop⟩ := hgroups (scopes, stop) List.mem_cons_self
        have houter : OpenGroups.From base found outer :=
          fun g hg => hgroups g (List.mem_cons_of_mem _ hg)
        exact ih houter (hupTo out scopes stop hout hscopes hstop)
      · exact ⟨hgroups, hout⟩

theorem closeAllGroups_preserves {groups : OpenGroups} {out : Emitted}
    (hgroups : groups.From base found) (hout : P out) : P (closeAllGroups groups out) := by
  induction groups generalizing out with
  | nil => exact hout
  | cons group outer ih =>
      obtain ⟨hscopes, hstop⟩ := hgroups group List.mem_cons_self
      have houter : OpenGroups.From base found outer :=
        fun g hg => hgroups g (List.mem_cons_of_mem _ hg)
      exact ih houter (hupTo out group.1 group.2 hout hscopes hstop)

/-- The induction is on the capture rules; the open groups keep scopes that go on from `base`. -/
theorem captureScopes_preserves
    (hscan : ∀ number rule container span out s, (number, rule) ∈ captures →
      rule.inner = some container → found.span? number = some span → P out →
      scanner (text.extract 0 span.stop)
        (innerScan container base rule text found atTextStart span.start out) = .ok s →
      P s.emitted)
    {groups : OpenGroups} {out result : Emitted}
    (hresult : captureScopes scanner text atTextStart base found captures groups out = .ok result)
    (hgroups : groups.From base found) (hout : P out) : P result := by
  induction captures generalizing groups out with
  | nil =>
      rw [captureScopes] at hresult
      rw [← Except.ok.inj hresult]
      exact closeAllGroups_preserves hupTo hgroups hout
  | cons entry rest ih =>
      obtain ⟨number, rule⟩ := entry
      have hrest : ∀ {groups out},
          captureScopes scanner text atTextStart base found rest groups out = .ok result →
            OpenGroups.From base found groups → P out → P result :=
        ih fun n r c span o s hmem => hscan n r c span o s (List.mem_cons_of_mem _ hmem)
      rw [captureScopes] at hresult
      split at hresult
      · exact hrest hresult hgroups hout
      · rename_i span hspan
        split at hresult
        · exact hrest hresult hgroups hout
        · split at hresult
          · rw [← Except.ok.inj hresult]
            exact closeAllGroups_preserves hupTo hgroups hout
          · obtain ⟨hleft, hclosed⟩ := closeGroups_preserves hupTo span.start hgroups hout
            generalize closeGroups span.start groups out = closed at hresult hleft hclosed
            obtain ⟨groups, out⟩ := closed
            dsimp only at hresult hleft hclosed
            have henclosing := hleft.prefix_scopes
            have hbefore := hupTo _ _ _ hclosed henclosing (Found.isBound_start hspan)
            split at hresult
            · rename_i container hinner
              split at hresult
              · cases hresult
              · rename_i s hs
                exact hrest hresult hleft
                  (hscan number rule container span _ s List.mem_cons_self hinner hspan hbefore hs)
            · refine hrest hresult ?_ hbefore
              -- A group with a name is opened; the others stay as they are.
              split
              · rename_i name _
                intro group hgroup
                rcases List.mem_cons.1 hgroup with rfl | hgroup
                · exact ⟨henclosing.trans (prefix_withName _ (some (name.fill text found))),
                    Found.isBound_stop hspan⟩
                · exact hleft group hgroup
              · exact hleft

/-- What extensions up to bounds of groups and scans of captured text keep is kept by the captures
of a match. -/
theorem Covers.preserves {before after : Emitted}
    (hcover : Covers scanner text atTextStart base captures found before after)
    (hscan : ∀ number rule container span out s, (number, rule) ∈ captures →
      rule.inner = some container → found.span? number = some span → P out →
      scanner (text.extract 0 span.stop)
        (innerScan container base rule text found atTextStart span.start out) = .ok s →
      P s.emitted)
    (hbefore : P before) : P after := by
  obtain ⟨covered, hcovered, rfl⟩ := hcover
  have hnone : OpenGroups.From base found [] := by
    intro group hgroup
    cases hgroup
  exact hupTo _ _ _ (captureScopes_preserves hupTo hscan hcovered hnone hbefore)
    (List.prefix_refl base) ⟨0, found.whole, rfl, Or.inr rfl⟩

end Preserved

/-! ## Scans that are started -/

open Classical in
/-- The scanner with one scan made to fail. -/
noncomputable def Scanner.failingAt (scanner : Scanner ρ) (text : Array Char) (s : Scan ρ)
    (e : ScanError) : Scanner ρ :=
  fun text' s' => if text' = text ∧ s' = s then .error e else scanner text' s'

theorem Scanner.failingAt_of_ne {inside : Array Char} {s s' : Scan ρ} {e : ScanError}
    (h : ¬ (text = inside ∧ s' = s)) : scanner.failingAt inside s e text s' = scanner text s' :=
  if_neg h

/-- Whether a computation that uses a scanner starts a scan: whatever that scan alone fails with,
the computation fails with. -/
def Starts (run : Scanner ρ → Except ScanError α) (scanner : Scanner ρ) (text : Array Char)
    (s : Scan ρ) : Prop :=
  ∀ e, run (scanner.failingAt text s e) = .error e

/-- A computation that fails only where another one does starts no other scans. -/
theorem Starts.mono {run : Scanner ρ → Except ScanError α} {part : Scanner ρ → Except ScanError β}
    {s : Scan ρ} (hpart : ∀ scanner e, run scanner = .error e → part scanner = .error e)
    (h : Starts run scanner text s) : Starts part scanner text s :=
  fun e => hpart _ e (h e)

/-- A computation to which a scan makes no difference does not start it. -/
theorem not_starts_of_eq {run : Scanner ρ → Except ScanError α} {s : Scan ρ}
    {result : Except ScanError α} (hsame : ∀ e, run (scanner.failingAt text s e) = result) :
    ¬ Starts run scanner text s := by
  intro h
  have hendless : result = .error .endless := (hsame .endless).symm.trans (h .endless)
  have hstalled : result = .error .stalled := (hsame .stalled).symm.trans (h .stalled)
  rw [hendless] at hstalled
  cases Except.error.inj hstalled

/-- The scan of the text of a group for which there are patterns. -/
def ScansGroup (captures : GroupRules) (text inside : Array Char) (s : Scan ρ) : Prop :=
  ∃ number rule container, (number, rule) ∈ captures ∧ rule.inner = some container ∧
    ∃ base found span atTextStart before, found.span? number = some span ∧
      inside = text.extract 0 span.stop ∧
      s = innerScan container base rule text found atTextStart span.start before

/-- The scan of the text of a group of this match, for which there are patterns. -/
def ScansGroupOf (found : Found) (captures : GroupRules) (text inside : Array Char)
    (s : Scan ρ) : Prop :=
  ∃ number rule container span, (number, rule) ∈ captures ∧ rule.inner = some container ∧
    found.span? number = some span ∧ inside = text.extract 0 span.stop ∧
      ∃ base atTextStart before,
        s = innerScan container base rule text found atTextStart span.start before

/-- The scan of the text of a group of this match, for which there are patterns; `atTextStart` says
whether the match was searched for at the start of the text. -/
def ScansGroupAt (atTextStart : Bool) (found : Found) (captures : GroupRules)
    (text inside : Array Char) (s : Scan ρ) : Prop :=
  ∃ number rule container span, (number, rule) ∈ captures ∧ rule.inner = some container ∧
    found.span? number = some span ∧ inside = text.extract 0 span.stop ∧
      ∃ base before, s = innerScan container base rule text found atTextStart span.start before

theorem ScansGroupAt.scansGroupOf {inside : Array Char} {s : Scan ρ}
    (h : ScansGroupAt atTextStart found captures text inside s) :
    ScansGroupOf found captures text inside s := by
  obtain ⟨number, rule, container, span, hmem, hinner, hspan, hinside, base, before, hs⟩ := h
  exact ⟨number, rule, container, span, hmem, hinner, hspan, hinside, base, atTextStart, before, hs⟩

theorem ScansGroupAt.mono {more : GroupRules} {inside : Array Char} {s : Scan ρ}
    (h : ScansGroupAt atTextStart found captures text inside s) (hsubset : captures ⊆ more) :
    ScansGroupAt atTextStart found more text inside s := by
  obtain ⟨number, rule, container, span, hmem, hinner⟩ := h
  exact ⟨number, rule, container, span, hsubset hmem, hinner⟩

theorem ScansGroupOf.scansGroup {inside : Array Char} {s : Scan ρ}
    (h : ScansGroupOf found captures text inside s) : ScansGroup captures text inside s := by
  obtain ⟨number, rule, container, span, hmem, hinner, hspan, hinside, base, start, before, hs⟩ := h
  exact ⟨number, rule, container, hmem, hinner, base, found, span, start, before, hspan, hinside,
    hs⟩

theorem ScansGroup.mono {more : GroupRules} {inside : Array Char} {s : Scan ρ}
    (h : ScansGroup captures text inside s) (hsubset : captures ⊆ more) :
    ScansGroup more text inside s := by
  obtain ⟨number, rule, container, hmem, hinner⟩ := h
  exact ⟨number, rule, container, hsubset hmem, hinner⟩

/-- A scan is that of a group of the match, or it makes no difference to the captures. -/
theorem captureScopes_failingAt (scanner : Scanner ρ) (text : Array Char) (atTextStart : Bool)
    (base : List String) (found : Found) (captures : GroupRules) (groups : OpenGroups)
    (out : Emitted) (inside : Array Char) (s : Scan ρ) :
    ScansGroupAt atTextStart found captures text inside s ∨
    ∀ e, captureScopes (scanner.failingAt inside s e) text atTextStart base found captures groups
      out = captureScopes scanner text atTextStart base found captures groups out := by
  induction captures generalizing groups out with
  | nil => exact Or.inr fun _ => rfl
  | cons entry rest ih =>
      obtain ⟨number, rule⟩ := entry
      have hrest : ∀ groups out,
          ScansGroupAt atTextStart found ((number, rule) :: rest) text inside s ∨
          ∀ e, captureScopes (scanner.failingAt inside s e) text atTextStart base found rest groups
            out = captureScopes scanner text atTextStart base found rest groups out := by
        intro groups out
        rcases ih groups out with hinner | hsame
        · exact Or.inl (hinner.mono (List.subset_cons_self _ _))
        · exact Or.inr hsame
      simp only [captureScopes]
      split
      · exact hrest groups out
      · rename_i span hspan
        split
        · exact hrest groups out
        · split
          · exact Or.inr fun _ => rfl
          · split
            · rename_i container hinner
              generalize closeGroups span.start groups out = closed
              obtain ⟨groups, out⟩ := closed
              simp only
              generalize Emitted.upTo _ _ span.start = before
              -- Either this is the scan in question, or it is one like any other.
              by_cases hhere : text.extract 0 span.stop = inside ∧
                  innerScan container base rule text found atTextStart span.start before = s
              · left
                exact ⟨number, rule, container, span, List.mem_cons_self, hinner, hspan,
                  hhere.1.symm, base, before, hhere.2.symm⟩
              · simp only [Scanner.failingAt_of_ne hhere]
                split
                · exact Or.inr fun _ => rfl
                · exact hrest groups _
            · exact hrest _ _

/-- Captures start scans of the texts of groups of the match that have patterns. -/
theorem Starts.ofCaptures {groups : OpenGroups} {out : Emitted} {inside : Array Char}
    {s : Scan ρ}
    (h : Starts (fun scanner => captureScopes scanner text atTextStart base found captures groups
      out) scanner inside s) : ScansGroupAt atTextStart found captures text inside s := by
  rcases captureScopes_failingAt scanner text atTextStart base found captures groups out inside s
    with hinner | hsame
  · exact hinner
  · exact absurd h (not_starts_of_eq hsame)

end ScopeCheck
