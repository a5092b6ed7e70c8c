import Mathlib.Data.List.Forall2
import ScopeCheck.Proofs.Engine

/-!
# Scans that differ in the numbers of rules

Two scans are alike if one becomes the other when its rules are numbered differently.

* `SameCourse`: two computations that may fail come to the same, but for failures that are excused;
* `Rule.Like`, `Frame.Like`, `Scan.Like`: what is the same but for the numbers of rules.  The scopes
  are compared only if `labels` holds, since nothing depends on them;
* `Scanner.Like`: two scanners take the same course on captured texts;
* `captureScopes_like`, `coverMatch_like`: then so do the captures of a match.
-/

namespace ScopeCheck

variable {ρ : Type}

/-! ## Computations that take the same course -/

/-- Both computations give values that belong together, or both fail in the same way; a failure that
is excused on its side goes with anything. -/
inductive SameCourse {ε α β : Type} (excused excused' : ε → Prop) (related : α → β → Prop) :
    Except ε α → Except ε β → Prop
  | values {a : α} {b : β} (h : related a b) : SameCourse excused excused' related (.ok a) (.ok b)
  | same (e : ε) : SameCourse excused excused' related (.error e) (.error e)
  | left {e : ε} {y : Except ε β} (h : excused e) :
      SameCourse excused excused' related (.error e) y
  | right {x : Except ε α} {e : ε} (h : excused' e) :
      SameCourse excused excused' related x (.error e)

theorem SameCourse.map {ε α β γ δ : Type} {excused excused' : ε → Prop} {related : α → β → Prop}
    {related' : γ → δ → Prop} {x : Except ε α} {y : Except ε β} (f : α → γ) (f' : β → δ)
    (h : SameCourse excused excused' related x y)
    (hf : ∀ a b, related a b → related' (f a) (f' b)) :
    SameCourse excused excused' related' (x.map f) (y.map f') := by
  cases h with
  | values h => exact .values (hf _ _ h)
  | same e => exact .same e
  | left h => exact .left h
  | right h => exact .right h

/-! ## What is the same but for the numbers of rules -/

section Like

variable (R : RuleIndex → RuleIndex → Prop) (labels : Prop)

structure GroupRule.Like (r r' : GroupRule) : Prop where
  name : r.name = r'.name
  contentName : r.contentName = r'.contentName
  inner : Option.Rel R r.inner r'.inner

/-- The same groups have rules, and these are alike. -/
def GroupRules.Like : GroupRules → GroupRules → Prop :=
  List.Forall₂ fun c c' => c.1 = c'.1 ∧ c.2.Like R c'.2

/-- The patterns inside are left out; what is tried inside a rule is known from the grammar. -/
inductive RuleForm.Like : RuleForm ρ → RuleForm ρ → Prop
  | single {p : Pattern ρ} {captures captures' : GroupRules}
      (own : GroupRules.Like R captures captures') :
      Like (.single p captures) (.single p captures')
  | region {first last : Pattern ρ} {begins begins' ends ends' : GroupRules} {flag : Bool}
      {inside inside' : List RuleIndex} (atBegin : GroupRules.Like R begins begins')
      (atEnd : GroupRules.Like R ends ends') :
      Like (.region first begins last ends flag inside)
        (.region first begins' last ends' flag inside')
  | during {first condition : Pattern ρ} {begins begins' holds holds' : GroupRules}
      {inside inside' : List RuleIndex} (atBegin : GroupRules.Like R begins begins')
      (atLines : GroupRules.Like R holds holds') :
      Like (.during first begins condition holds inside)
        (.during first begins' condition holds' inside')
  | container {inside inside' : List RuleIndex} : Like (.container inside) (.container inside')

structure Rule.Like (r r' : Rule ρ) : Prop where
  name : r.name = r'.name
  contentName : r.contentName = r'.contentName
  form : r.form.Like R r'.form

structure Frame.Like (f f' : Frame ρ) : Prop where
  rule : R f.rule f'.rule
  openedAt : f.openedAt = f'.openedAt
  anchor : f.anchor = f'.anchor
  tookLineEnd : f.tookLineEnd = f'.tookLineEnd
  filledLast : f.filledLast = f'.filledLast
  matchScopes : labels → f.matchScopes = f'.matchScopes
  bodyScopes : labels → f.bodyScopes = f'.bodyScopes

/-- The frames are alike, one by one. -/
structure Stack.Like (s s' : Stack ρ) : Prop where
  top : s.top.Like R labels s'.top
  below : List.Forall₂ (Frame.Like R labels) s.below s'.below

structure Scan.Like (s s' : Scan ρ) : Prop where
  point : s.point = s'.point
  stack : s.stack.Like R labels s'.stack
  emitted : labels → s.emitted = s'.emitted

inductive ScanStep.Like : ScanStep ρ → ScanStep ρ → Prop
  | next {s s' : Scan ρ} (scans : s.Like R labels s') : Like (.next s) (.next s')
  | halt {reason : Halt} {s s' : Scan ρ} (scans : s.Like R labels s') :
      Like (.halt reason s) (.halt reason s')

inductive Candidate.Like : Candidate → Candidate → Prop
  | last : Like .last .last
  | rule {id id' : RuleIndex} (numbers : R id id') : Like (.rule id) (.rule id')

end Like

/-! ## Scans of captured text -/

/-- The text is the beginning of a line. -/
def IsBeginning (line text : Array Char) : Prop := ∃ stop ≤ line.size, text = line.extract 0 stop

theorem IsBeginning.refl (line : Array Char) : IsBeginning line line :=
  ⟨line.size, Nat.le_refl _, Array.extract_size.symm⟩

theorem IsBeginning.size_le {line text : Array Char} (h : IsBeginning line text) :
    text.size ≤ line.size := by
  obtain ⟨stop, hstop, rfl⟩ := h
  rw [Array.size_extract, Nat.sub_zero]
  exact Nat.min_le_right stop line.size

theorem IsBeginning.extract {line text : Array Char} (h : IsBeginning line text) {stop : Nat}
    (hstop : stop ≤ text.size) : IsBeginning line (text.extract 0 stop) := by
  obtain ⟨outer, houter, rfl⟩ := h
  have hsize : stop ≤ outer := by simpa [Nat.min_eq_left houter] using hstop
  refine ⟨stop, Nat.le_trans hsize houter, ?_⟩
  rw [Array.extract_extract, Nat.zero_add, Nat.zero_add, Nat.min_eq_left hsize]

/-- The scan of a captured text, before its first step. -/
def Scan.IsOpening (s : Scan ρ) : Prop :=
  ∃ container start flag matchScopes bodyScopes out,
    s = ⟨⟨start, none, flag⟩,
      ⟨⟨container, some start, none, false, matchScopes, bodyScopes, none⟩, []⟩, out⟩

/-- Two scanners take the same course on captured texts of a line. -/
def Scanner.Like (R : RuleIndex → RuleIndex → Prop) (labels : Prop)
    (excused excused' : ScanError → Prop) (line : Array Char) (scanner scanner' : Scanner ρ) :
    Prop :=
  ∀ text, IsBeginning line text → ∀ s s' : Scan ρ, s.Like R labels s' → s.IsOpening →
    s.point.pos ≤ line.size →
      SameCourse excused excused' (Scan.Like R labels) (scanner text s) (scanner' text s')

section Scans

variable {R : RuleIndex → RuleIndex → Prop} {labels : Prop} {excused excused' : ScanError → Prop}
  {line text : Array Char} {scanner scanner' : Scanner ρ} {base base' : List String} {found : Found}

theorem innerScan_like {container container' : RuleIndex} (hcontainer : R container container')
    (hbase : labels → base = base') {rule rule' : GroupRule} (hrule : rule.Like R rule')
    (text : Array Char) (found : Found) (flag : Bool) (start : Nat) {out out' : Emitted}
    (hout : labels → out = out') :
    (innerScan container base rule text found flag start out : Scan ρ).Like R labels
      (innerScan container' base' rule' text found flag start out') := by
  refine ⟨rfl, ⟨⟨hcontainer, rfl, rfl, rfl, rfl, fun hlabels => ?_, fun hlabels => ?_⟩, .nil⟩, hout⟩
  · show withName base _ = withName base' _
    rw [hbase hlabels, hrule.name]
  · show withName (withName base _) _ = withName (withName base' _) _
    rw [hbase hlabels, hrule.name, hrule.contentName]

theorem innerScan_isOpening (container : RuleIndex) (rule : GroupRule) (flag : Bool) (start : Nat)
    (out : Emitted) :
    (innerScan container base rule text found flag start out : Scan ρ).IsOpening :=
  ⟨_, _, _, _, _, _, rfl⟩

/-- The ranges that a match gives to numbers lie inside the text. -/
def Found.SpansInside (found : Found) (text : Array Char) : Prop :=
  ∀ number span, found.span? number = some span → span.start ≤ text.size ∧ span.stop ≤ text.size

theorem Pattern.search_spansInside {engine : RegexEngine ρ} (hengine : engine.StaysInside)
    {p : Pattern ρ} {q : Query} (h : p.search engine q = .ok (some found)) :
    found.SpansInside q.text := by
  obtain ⟨_, regex, hregex⟩ := Pattern.search_eq_some h
  obtain ⟨hahead, hgroups⟩ := hengine regex q.text q.start found hregex
  exact fun _ _ hspan => Found.span?_inside hahead hgroups hspan

variable (hscanner : scanner.Like R labels excused excused' line scanner')
  (htext : IsBeginning line text)

include hscanner htext

/-- The induction is on the captures.  What is open and what has been emitted decide nothing. -/
theorem captureScopes_like (hinside : found.SpansInside text) {captures captures' : GroupRules}
    (hcaptures : GroupRules.Like R captures captures') (hbase : labels → base = base')
    {groups groups' : OpenGroups} {out out' : Emitted}
    (hgroups : labels → groups = groups') (hout : labels → out = out') (flag : Bool) :
    SameCourse excused excused' (fun out out' => labels → out = out')
      (captureScopes scanner text flag base found captures groups out)
      (captureScopes scanner' text flag base' found captures' groups' out') := by
  induction hcaptures generalizing groups groups' out out' with
  | nil =>
      refine .values fun hlabels => ?_
      rw [hgroups hlabels, hout hlabels]
  | @cons entry entry' rest rest' hentry _ ih =>
      obtain ⟨number, rule⟩ := entry
      obtain ⟨number', rule'⟩ := entry'
      obtain ⟨rfl, hrule⟩ : number = number' ∧ rule.Like R rule' := hentry
      rw [captureScopes, captureScopes]
      cases hspan : found.span? number with
      | none => exact ih hgroups hout
      | some span =>
          dsimp only
          by_cases hempty : span.start = span.stop
          · rw [if_pos hempty, if_pos hempty]
            exact ih hgroups hout
          · rw [if_neg hempty, if_neg hempty]
            by_cases hbehind : span.start > found.whole.stop
            · rw [if_pos hbehind, if_pos hbehind]
              refine .values fun hlabels => ?_
              rw [hgroups hlabels, hout hlabels]
            · rw [if_neg hbehind, if_neg hbehind]
              have hclosed : labels → closeGroups span.start groups out =
                  closeGroups span.start groups' out' := by
                intro hlabels
                rw [hgroups hlabels, hout hlabels]
              have hreached : labels →
                  (closeGroups span.start groups out).2.upTo
                    ((closeGroups span.start groups out).1.scopes base) span.start =
                  (closeGroups span.start groups' out').2.upTo
                    ((closeGroups span.start groups' out').1.scopes base') span.start := by
                intro hlabels
                rw [hclosed hlabels, hbase hlabels]
              obtain ⟨name, contentName, inner⟩ := rule
              obtain ⟨name', contentName', inner'⟩ := rule'
              obtain ⟨hname, hcontentName, hinner⟩ := hrule
              dsimp only at hname hcontentName hinner
              subst hname hcontentName
              cases hinner with
              | none =>
                  refine ih (fun hlabels => ?_) hreached
                  rw [hclosed hlabels, hbase hlabels]
              | @some container container' hcontainer =>
                  obtain ⟨hstart, hstop⟩ := hinside number span hspan
                  have hstart := Nat.le_trans hstart htext.size_le
                  have hrule : GroupRule.Like R ⟨name, contentName, some container⟩
                      ⟨name, contentName, some container'⟩ := ⟨rfl, rfl, .some hcontainer⟩
                  have hopening := innerScan_like (ρ := ρ) hcontainer hbase hrule text found flag
                    span.start hreached
                  have hscan := hscanner _ (htext.extract hstop) _ _ hopening
                    (innerScan_isOpening _ _ _ _ _) hstart
                  have hgroups : labels → (closeGroups span.start groups out).1 =
                      (closeGroups span.start groups' out').1 :=
                    fun hlabels => congrArg Prod.fst (hclosed hlabels)
                  dsimp only
                  generalize scanner _ _ = x at hscan ⊢
                  generalize scanner' _ _ = y at hscan ⊢
                  cases hscan with
                  | values hs => exact ih hgroups hs.emitted
                  | same e => exact .same e
                  | left h => exact .left h
                  | right h => exact .right h

theorem coverMatch_like (hinside : found.SpansInside text) {captures captures' : GroupRules}
    (hcaptures : GroupRules.Like R captures captures') (hbase : labels → base = base')
    {s s' : Scan ρ} (hs : s.Like R labels s') :
    SameCourse excused excused' (Scan.Like R labels)
      (Grammar.coverMatch scanner text base captures found s)
      (Grammar.coverMatch scanner' text base' captures' found s') := by
  obtain ⟨point, stack, out⟩ := s
  obtain ⟨point', stack', out'⟩ := s'
  obtain ⟨hpoint, hstack, hout⟩ := hs
  obtain rfl : point = point' := hpoint
  have hgroups : labels → ([] : OpenGroups) = [] := fun _ => rfl
  have hcovered := captureScopes_like hscanner htext hinside hcaptures hbase hgroups hout
    point.atTextStart
  unfold Grammar.coverMatch
  dsimp only
  generalize captureScopes scanner _ _ _ _ _ _ _ = x at hcovered ⊢
  generalize captureScopes scanner' _ _ _ _ _ _ _ = y at hcovered ⊢
  cases hcovered with
  | @values after after' hafter =>
      refine .values ⟨rfl, hstack, fun hlabels => ?_⟩
      show after.upTo base _ = after'.upTo base' _
      rw [hafter hlabels, hbase hlabels]
  | same e => exact .same e
  | left h => exact .left h
  | right h => exact .right h

end Scans

end ScopeCheck
