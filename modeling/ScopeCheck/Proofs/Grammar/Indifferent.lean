import ScopeCheck.Proofs.Grammar.Counterparts
import ScopeCheck.Proofs.Grammar.Renumbering
import ScopeCheck.Proofs.Grammar.Slots

/-!
# Places that do not matter

Two libraries differ in one place, where neither has an entry that contributes anything.  All parts
outside of it have counterparts, and so have the patterns inside their captures; so these libraries
are compiled in parallel.

* `CaptureFits`: captures of counterparts in the same place;
* `Library.DiffersAt.tasks_aligned`: visits and checks go in step;
* `Library.DiffersAt.rule_like`: counterparts become the same rules, but for the numbers of others;
* `Library.DiffersAt.outcome_eq`: the libraries give all texts the same tokens.
-/

namespace ScopeCheck

variable {ρ : Type} {engine : RegexEngine ρ} {lib lib' : Library} {place : Place}
  {e e' : Entry} {p p' : Part}

/-! ## Captures with the same outlines -/

namespace Entry

theorem capturesFor_outline (e : Entry) (which : CaptureMap) :
    e.outline.capturesFor which = ((e.capturesFor which).1, keysOf (e.capturesFor which).2) := by
  have hgetD : ∀ captures : Option (List (String × Entry)),
      (captures.map keysOf).getD [] = keysOf (captures.getD []) := by
    intro captures
    cases captures <;> rfl
  obtain ⟨reference, name, contentName, m, b, en, w, c, bc, ec, wc, patterns, repository, l, d⟩ := e
  have hwhole := congrArg (Prod.mk CaptureMap.whole) (hgetD c)
  cases which with
  | whole => exact hwhole
  | first =>
      cases bc with
      | none => exact hwhole
      | some captures => rfl
  | last =>
      cases ec with
      | none => exact hwhole
      | some captures => rfl
  | condition =>
      cases wc with
      | none => exact hwhole
      | some captures => rfl

theorem capturesFor_together (h : e.outline = e'.outline) (which : CaptureMap) :
    (e.capturesFor which).1 = (e'.capturesFor which).1 ∧
      keysOf (e.capturesFor which).2 = keysOf (e'.capturesFor which).2 := by
  have hcaptures := congrArg (fun o : Entry => o.capturesFor which) h
  rw [capturesFor_outline, capturesFor_outline] at hcaptures
  exact Prod.mk.inj hcaptures

end Entry

/-- Maps with the same keys go in step. -/
theorem forall₂_of_keysOf_eq {S : String → Entry → Entry → Prop}
    {pairs pairs' : List (String × Entry)} (hkeys : keysOf pairs = keysOf pairs')
    (hsame : ∀ key v v', (key, v) ∈ pairs → (key, v') ∈ pairs' → S key v v') :
    List.Forall₂ (fun c c' => c.1 = c'.1 ∧ S c.1 c.2 c'.2) pairs pairs' := by
  induction pairs generalizing pairs' with
  | nil =>
      cases pairs' with
      | nil => exact .nil
      | cons c' rest' => cases hkeys
  | cons c rest ih =>
      cases pairs' with
      | nil => cases hkeys
      | cons c' rest' =>
          obtain ⟨key, v⟩ := c
          obtain ⟨key', v'⟩ := c'
          obtain ⟨hfirst, hrest⟩ := List.cons.inj hkeys
          obtain rfl : key = key' := (Prod.mk.inj hfirst).1
          refine .cons ⟨rfl, hsame key v v' List.mem_cons_self List.mem_cons_self⟩ ?_
          exact ih hrest fun key v v' hv hv' =>
            hsame key v v' (List.mem_cons_of_mem _ hv) (List.mem_cons_of_mem _ hv')

theorem partsAligned_of_forall₂ {T : Part → Part → Prop} {ps ps' : List Part}
    (h : List.Forall₂ T ps ps') : PartsAligned lib lib' T ps ps' := by
  induction h with
  | nil => exact .nil
  | cons head _ ih => exact .both head ih

/-- Visits to parts that go in step go in step. -/
theorem tasksAligned_visits {T : Part → Part → Prop} {ps ps' : List Part}
    (h : PartsAligned lib lib' T ps ps') :
    TasksAligned lib lib' T (ps.map .visit) (ps'.map .visit) := by
  induction h with
  | nil => exact .nil
  | both head _ ih => exact .both (.visit head) ih
  | left head _ ih => exact .left ⟨_, rfl, head⟩ ih
  | right head _ ih => exact .right ⟨_, rfl, head⟩ ih

/-! ## Rules for groups -/

theorem GroupRules.Like.insert {R : RuleIndex → RuleIndex → Prop} {rules rules' : GroupRules}
    (h : GroupRules.Like R rules rules') {number : Nat} {r r' : GroupRule} (hr : r.Like R r') :
    GroupRules.Like R (rules.insert number r) (rules'.insert number r') := by
  induction h with
  | nil => exact .cons ⟨rfl, hr⟩ .nil
  | @cons c c' rest rest' hc hrest ih =>
      obtain ⟨n, own⟩ := c
      obtain ⟨n', own'⟩ := c'
      obtain ⟨hnumber, hown⟩ := hc
      obtain rfl : n = n' := hnumber
      rw [GroupRules.insert, GroupRules.insert]
      split
      · exact .cons ⟨rfl, hr⟩ (.cons ⟨rfl, hown⟩ hrest)
      · split
        · exact .cons ⟨rfl, hr⟩ hrest
        · exact .cons ⟨rfl, hown⟩ ih

/-! ## Captures of counterparts -/

section Captures

variable {path : List Step} {around : Surroundings} {key : String} {capture : Entry}
  {which : CaptureMap}

/-- Captures that are in use stand where their steps lead to. -/
theorem Part.IsWritten.entryAt?_capture {d : Document} (hkeyed : lib.CapturesKeyed)
    (h : (Part.entry path e around).IsWritten lib) (hd : (Part.entry path e around).inner.Of lib d)
    (hcapture : (key, capture) ∈ (e.capturesFor which).2) :
    d.entryAt? (.capture (e.capturesFor which).1 key :: path) = some capture := by
  rw [Entry.capturesFor_eq] at hcapture
  have hleads : Leads lib (.entry path e around) (.contents which
      (.capture (e.capturesFor which).1 key :: path) capture (Part.entry path e around).inner) :=
    .capture hcapture
  have hwritten := hleads.isWritten hkeyed h
  have hentry : (Part.entry (.capture (e.capturesFor which).1 key :: path) capture
      (Part.entry path e around).inner).IsWritten lib := hwritten
  exact hentry.entryAt? hd.document

end Captures

/-- Captures of this kind of counterparts, in the same place. -/
structure CaptureFits (place : Place) (lib lib' : Library) (which : CaptureMap) (p p' : Part)
    (c c' : Nat × List Step × Entry) : Prop where
  number : c.1 = c'.1
  path : c.2.1 = c'.2.1
  outline : c.2.2.outline = c'.2.2.outline
  contents : c.2.2.patterns.isSome → Counterpart place lib lib'
    (.contents which c.2.1 c.2.2 p.inner) (.contents which c'.2.1 c'.2.2 p'.inner)

/-- Both captures have patterns, and these are counterparts, or none of them has any. -/
theorem CaptureFits.patterns_together {which : CaptureMap} {c c' : Nat × List Step × Entry}
    (h : CaptureFits place lib lib' which p p' c c') :
    Option.Rel (fun _ _ => Counterpart place lib lib'
        (.contents which c.2.1 c.2.2 p.inner) (.contents which c'.2.1 c'.2.2 p'.inner))
      c.2.2.patterns c'.2.2.patterns := by
  have hisSome := Entry.isSome_patterns_eq h.outline
  have hcontents := h.contents
  generalize c.2.2.patterns = x at hisSome hcontents ⊢
  generalize c'.2.2.patterns = y at hisSome ⊢
  cases x with
  | none =>
      cases y with
      | none => exact .none
      | some patterns' => cases hisSome
  | some patterns =>
      cases y with
      | none => cases hisSome
      | some patterns' => exact .some (hcontents rfl)

namespace Library.DiffersAt

variable (h : Library.DiffersAt place lib lib')

include h

/-- The place of a rule has no captures in it, but for those of its own entry. -/
theorem not_covers_capture {scope key : String} {which : CaptureMap} {path : List Step}
    (houtside : ¬ place.Covers ⟨scope, path⟩) :
    ¬ place.Covers ⟨scope, .capture which key :: path⟩ := by
  intro hcovers
  obtain rfl := h.eq_of_covers houtside hcovers
  rcases h.rulePlace with ⟨i, outer, hpath⟩ | ⟨name, outer, hpath⟩ <;> cases hpath

section Entries

variable {path : List Step} {around around' : Surroundings} {which : CaptureMap}
  (hp : Counterpart place lib lib' (.entry path e around) (.entry path e' around'))
  (hwhich : which ∈ e.shape.captureMaps)

include hp hwhich

/-- The captures that are in use in counterparts fit one by one. -/
theorem numberedCaptures_fit :
    List.Forall₂ (CaptureFits place lib lib' which (.entry path e around) (.entry path e' around'))
      (Part.numberedCaptures path e which) (Part.numberedCaptures path e' which) := by
  have houtline : e.outline = e'.outline := h.outline_eq hp
  have hwhich' : which ∈ e'.shape.captureMaps := Entry.shape_eq houtline ▸ hwhich
  obtain ⟨hscope, d, d', hd, hd', hsame⟩ := h.inner_documents hp
  obtain ⟨hmap, hkeys⟩ := Entry.capturesFor_together houtline which
  have houtside : ∀ key, ¬ place.Covers ⟨(Part.entry path e around).inner.scope,
      .capture (e.capturesFor which).1 key :: path⟩ := by
    intro key
    rw [Part.inner_scope]
    exact h.not_covers_capture (hp.outside _ List.mem_cons_self)
  -- Captures of a group fit, whatever the group is.
  have hfit : ∀ key capture capture', (key, capture) ∈ (e.capturesFor which).2 →
      (key, capture') ∈ (e'.capturesFor which).2 → ∀ number, captureNumber? key = some number →
        CaptureFits place lib lib' which (.entry path e around) (.entry path e' around')
          (number, .capture (e.capturesFor which).1 key :: path, capture)
          (number, .capture (e'.capturesFor which).1 key :: path, capture') := by
    intro key capture capture' hcapture hcapture' number hnumber
    have hentry := (hp.reached.written h.keyed.capturesKeyed).entryAt?_capture
      h.keyed.capturesKeyed hd hcapture
    have hentry' := (hp.reached'.written h.keyed'.capturesKeyed).entryAt?_capture
      h.keyed'.capturesKeyed hd' hcapture'
    rw [← hmap] at hentry' ⊢
    have hinside := (hsame _ (houtside key)).outline_eq hentry hentry'
    refine ⟨rfl, rfl, hinside, fun hpatterns => ?_⟩
    have hpatterns' : capture'.patterns.isSome := Entry.isSome_patterns_eq hinside ▸ hpatterns
    have hreached' := hp.reached'.contents hwhich' hcapture' hnumber hpatterns'
    rw [← hmap] at hreached'
    refine ⟨hp.reached.contents hwhich hcapture hnumber hpatterns, hreached', ?_, ?_, ?_,
      hp.owners, fun owner howner => ?_⟩
    · rintro ⟨_, _, _, hq, _⟩
      cases hq
    · rintro ⟨_, _, _, hq, _⟩
      cases hq
    · rw [Part.key, Part.key, hscope]
    · rcases List.mem_cons.1 howner with rfl | howner
      · exact houtside key
      · rw [Part.key, Key.place, Part.inner_scope]
        exact hp.outside owner (List.mem_cons_of_mem _ howner)
  refine List.rel_filterMap ?_ (forall₂_of_keysOf_eq hkeys hfit)
  rintro ⟨key, capture⟩ ⟨key', capture'⟩ ⟨hkey, hpair⟩
  obtain rfl : key = key' := hkey
  dsimp only at hpair ⊢
  cases hnumber : captureNumber? key with
  | none => exact .none
  | some number => exact .some (hpair number hnumber)

/-- The patterns inside of captures have counterparts. -/
theorem captureContents_counterparts :
    List.Forall₂ (Counterpart place lib lib')
      (Part.captureContents path e (Part.entry path e around).inner which)
      (Part.captureContents path e' (Part.entry path e' around').inner which) := by
  refine List.rel_filterMap ?_ (h.numberedCaptures_fit hp hwhich)
  rintro ⟨number, steps, capture⟩ ⟨number', steps', capture'⟩ hfit
  have hpatterns := hfit.patterns_together
  dsimp only at hpatterns ⊢
  generalize capture.patterns = x at hpatterns ⊢
  generalize capture'.patterns = y at hpatterns ⊢
  cases hpatterns with
  | none => exact .none
  | some hcontents => exact .some hcontents

/-- The rules for groups are the same, but for the numbers of the patterns inside of captures. -/
theorem groupRules_like {R : RuleIndex → RuleIndex → Prop} {numbers numbers' : Numbering}
    (hnumbers : ∀ q q', Counterpart place lib lib' q q' →
      Option.Rel R (numbers q.key) (numbers' q'.key)) :
    GroupRules.Like R (Part.groupRules numbers path e around which)
      (Part.groupRules numbers' path e' around' which) := by
  refine List.rel_foldl ?_ .nil (h.numberedCaptures_fit hp hwhich)
  rintro rules rules' hrules ⟨number, steps, capture⟩ ⟨number', steps', capture'⟩ hfit
  obtain rfl : number = number' := hfit.number
  have hpatterns := hfit.patterns_together
  have hname : capture.name = capture'.name :=
    Entry.eq_of_outline Entry.name (fun _ => rfl) hfit.outline
  have hcontentName : capture.contentName = capture'.contentName :=
    Entry.eq_of_outline Entry.contentName (fun _ => rfl) hfit.outline
  refine hrules.insert ⟨?_, ?_, ?_⟩
  · rw [hname]
  · rw [hcontentName]
  · dsimp only at hpatterns ⊢
    generalize capture.patterns = x at hpatterns ⊢
    generalize capture'.patterns = y at hpatterns ⊢
    cases hpatterns with
    | none => exact .none
    | some hcontents =>
        have hinner := hnumbers _ _ hcontents
        simp only [Part.key, Part.inner_scope, Key.place] at hinner
        exact hinner

end Entries

/-! ## Parts that go in step -/

/-- What follows from counterparts goes in step. -/
theorem tasks_aligned (hp : Counterpart place lib lib' p p') :
    TasksAligned lib lib' (Counterpart place lib lib') (p.tasks lib) (p'.tasks lib') := by
  have hpatterns := tasksAligned_visits (h.patterns_aligned hp)
  cases Part.alongside_of_key hp.key with
  | root scope d d' => exact hpatterns
  | contents which path e e' around around' => exact hpatterns
  | entry path e e' around around' =>
      have hshape : e.shape = e'.shape := Entry.shape_eq (h.outline_eq hp)
      have hcaptures : ∀ which ∈ e.shape.captureMaps,
          TasksAligned lib lib' (Counterpart place lib lib')
            ((Part.captureContents path e (Part.entry path e around).inner which).map .visit)
            ((Part.captureContents path e' (Part.entry path e' around').inner which).map .visit) :=
        fun which hwhich =>
          tasksAligned_visits (partsAligned_of_forall₂ (h.captureContents_counterparts hp hwhich))
      rw [Part.tasks, Part.tasks, ← hshape]
      cases hown : e.shape with
      | container => exact hpatterns
      | single source =>
          rw [hown] at hcaptures
          exact .both (.check source) (hcaptures .whole (by simp [Shape.captureMaps]))
      | region first last =>
          rw [hown] at hcaptures
          have hbegins := hcaptures .first (by simp [Shape.captureMaps])
          have hends := hcaptures .last (by simp [Shape.captureMaps])
          exact (hpatterns.append (.both (.check first) hbegins)).append (.both (.check last) hends)
      | during first condition =>
          rw [hown] at hcaptures
          have hbegins := hcaptures .first (by simp [Shape.captureMaps])
          have hholds := hcaptures .condition (by simp [Shape.captureMaps])
          exact (hpatterns.append (.both (.check first) hbegins)).append
            (.both (.check condition) hholds)

/-- Counterparts become the same rules, but for the numbers of other rules. -/
theorem rule_like (hp : Counterpart place lib lib' p p') {R : RuleIndex → RuleIndex → Prop}
    {numbers numbers' : Numbering}
    (hnumbers : ∀ q q', Counterpart place lib lib' q q' →
      Option.Rel R (numbers q.key) (numbers' q'.key)) {r r' : Rule ρ}
    (hr : p.rule engine lib numbers = .ok r) (hr' : p'.rule engine lib' numbers' = .ok r') :
    r.Like R r' := by
  cases Part.alongside_of_key hp.key with
  | root scope d d' =>
      rw [Part.rule_of_not_entry hr (by simp), Part.rule_of_not_entry hr' (by simp)]
      exact ⟨rfl, rfl, .container⟩
  | contents which path e e' around around' =>
      rw [Part.rule_of_not_entry hr (by simp), Part.rule_of_not_entry hr' (by simp)]
      exact ⟨rfl, rfl, .container⟩
  | entry path e e' around around' =>
      have houtline : e.outline = e'.outline := h.outline_eq hp
      have hshape := Entry.shape_eq houtline
      have hflag := Entry.eq_of_outline Entry.triesEndLast (fun _ => rfl) houtline
      have hcaptures : ∀ which ∈ e.shape.captureMaps,
          GroupRules.Like R (Part.groupRules numbers path e around which)
            (Part.groupRules numbers' path e' around' which) :=
        fun which hwhich => h.groupRules_like hp hwhich hnumbers
      obtain ⟨hname, hcontentName⟩ := Part.rule_names hr
      obtain ⟨hname', hcontentName'⟩ := Part.rule_names hr'
      have hform := Part.rule_form hr
      have hform' := Part.rule_form hr'
      rw [← hshape] at hform'
      refine ⟨?_, ?_, ?_⟩
      · rw [hname, hname', Entry.eq_of_outline Entry.name (fun _ => rfl) houtline]
      · rw [hcontentName, hcontentName',
          Entry.eq_of_outline Entry.contentName (fun _ => rfl) houtline]
      -- Both read the same patterns, so the engine gives them the same meaning.
      · cases hown : e.shape with
        | container =>
            simp only [hown] at hform hform'
            rw [hform, hform']
            exact .container
        | single source =>
            simp only [hown] at hform hform' hcaptures
            obtain ⟨own, hread, hform⟩ := hform
            obtain ⟨own', hread', hform'⟩ := hform'
            obtain rfl := Except.ok.inj (hread.symm.trans hread')
            rw [hform, hform']
            exact .single (hcaptures .whole (by simp [Shape.captureMaps]))
        | region first last =>
            simp only [hown] at hform hform' hcaptures
            obtain ⟨begins, ends, hbegins, hends, hform⟩ := hform
            obtain ⟨begins', ends', hbegins', hends', hform'⟩ := hform'
            obtain rfl := Except.ok.inj (hbegins.symm.trans hbegins')
            obtain rfl := Except.ok.inj (hends.symm.trans hends')
            rw [hform, hform', ← hflag]
            exact .region (hcaptures .first (by simp [Shape.captureMaps]))
              (hcaptures .last (by simp [Shape.captureMaps]))
        | during first condition =>
            simp only [hown] at hform hform' hcaptures
            obtain ⟨begins, holds, hbegins, hholds, hform⟩ := hform
            obtain ⟨begins', holds', hbegins', hholds', hform'⟩ := hform'
            obtain rfl := Except.ok.inj (hbegins.symm.trans hbegins')
            obtain rfl := Except.ok.inj (hholds.symm.trans hholds')
            rw [hform, hform']
            exact .during (hcaptures .first (by simp [Shape.captureMaps]))
              (hcaptures .condition (by simp [Shape.captureMaps]))

/-- The base grammars are counterparts, or both are missing. -/
theorem root_counterparts : Option.Rel (Counterpart place lib lib') (lib.root lib.base)
    (lib'.root lib'.base) := by
  have hfits := h.root_fits lib.base (fun _ hq => .base hq) fun q hq => .base (h.agrees.base ▸ hq)
  have hsolid : ∀ {lib : Library} {scope : String} {q : Part}, lib.root scope = some q →
      ¬ q.IsHollow := by
    rintro lib scope q hq ⟨_, _, _, rfl, _⟩
    obtain ⟨_, _, hroot⟩ := Option.map_eq_some_iff.1 hq
    cases hroot
  rw [← h.agrees.base]
  generalize hroot : lib.root lib.base = x at hfits ⊢
  generalize hroot' : lib'.root lib.base = y at hfits ⊢
  cases hfits with
  | both hq => exact .some hq
  | idle left right =>
      cases x with
      | some q => exact absurd (left q rfl).hollow (hsolid hroot)
      | none =>
          cases y with
          | some q' => exact absurd (right q' rfl).hollow (hsolid hroot')
          | none => exact .none

/-- The libraries are compiled in parallel. -/
theorem parallel : lib.Parallel engine lib' (Counterpart place lib lib') where
  keyed := h.keyed
  keyed' := h.keyed'
  base := h.agrees.base
  root := h.root_counterparts
  reached := fun hp => ⟨hp.reached, hp.reached'⟩
  solid := fun hp => ⟨hp.solid, hp.solid'⟩
  key := fun hp => hp.key
  patterns := h.patterns_aligned
  tasks := h.tasks_aligned
  rule := fun hp _ _ _ hnumbers _ _ hr hr' => h.rule_like hp hnumbers hr hr'

/-- Both libraries are refused for the same reason, or they give all texts the same tokens. -/
theorem outcome_eq (hengine : engine.StaysInside) (lines : List String) :
    lib.outcome engine lines = lib'.outcome engine lines :=
  h.parallel.outcome_eq hengine lines

end Library.DiffersAt

end ScopeCheck
