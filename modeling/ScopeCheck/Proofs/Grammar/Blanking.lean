import ScopeCheck.Proofs.Grammar.Indifferent

/-!
# Rules that can be replaced by empty ones

An entry without any field contributes nothing, and neither does an entry that is switched off:
where one of them is written, the other one gives all texts the same tokens.

* `Library.outcome_put_blank` says so for entries of repositories and of lists of patterns;
* `Library.disabled_include_counts`: an include in a list of patterns is followed although it is
  switched off;
* `Library.outcome_put_alias`: an include of an entry that is only an include itself contributes
  nothing either, since the include of an entry of a repository is passed over;
* `Library.alias_loses`: so it does not stand for what that entry includes.
-/

namespace ScopeCheck

variable {ρ : Type} {engine : RegexEngine ρ} {lib : Library} {place : Place} {e : Entry}
  {text : String}

/-- An entry that only includes something. -/
def Entry.including (text : String) : Entry := { Entry.blank with reference := some text }

theorem Entry.keyed_including (text : String) : (Entry.including text).Keyed := by
  refine Entry.keyed_iff.2 ⟨fun _ h => absurd h List.not_mem_nil, keyedMap_nil, fun which => ?_⟩
  cases which <;> exact keyedMap_nil

theorem Entry.isHollow_blank : Entry.blank.IsHollow := ⟨rfl, rfl⟩

/-- Its include is passed over where it is not in a list of patterns. -/
theorem Entry.isHollow_including (text : String) : (Entry.including text).IsHollow := ⟨rfl, rfl⟩

namespace Library

/-! ## Entries that contribute nothing -/

theorem idleAt_blank (h : lib.entryAt? place = some .blank) : lib.IdleAt place where
  listed := by
    intro p i e _ _ he q hq
    obtain rfl := Option.some.inj (h.symm.trans he)
    exact ⟨_, _, _, Part.eq_of_enabled hq, Entry.isHollow_blank⟩
  named := by
    intro name outer e _ he
    obtain rfl := Option.some.inj (h.symm.trans he)
    exact Or.inr Entry.isHollow_blank

/-- An entry that is switched off contributes nothing, unless it is an include in a list of
patterns. -/
theorem idleAt_of_isOff (h : lib.entryAt? place = some e) (hoff : e.isOff)
    (hlisted : ∀ i outer, place.path = .pattern i :: outer → e.reference = none) :
    lib.IdleAt place where
  listed := by
    intro p i own _ hplace hown q hq
    obtain rfl := Option.some.inj (h.symm.trans hown)
    have hreference := hlisted i _ (congrArg Place.path hplace)
    simp only [Library.standsFor, hreference, Library.enabled, hoff, if_pos, reduceCtorEq] at hq
  named := by
    intro name outer own _ hown
    obtain rfl := Option.some.inj (h.symm.trans hown)
    exact Or.inl hoff

/-- An include in a list of patterns names an entry that only includes something, wherever the list
is reached. -/
def NamesAlias (lib : Library) (place : Place) (text target : String) : Prop :=
  ∀ p i, lib.Reaches p → place = ⟨p.key.place.scope, .pattern i :: p.key.place.path⟩ →
    ∃ path around, lib.included p.inner (Target.ofText text) =
      some (.entry path (.including target) around)

theorem idleAt_of_namesAlias {target : String} (h : lib.entryAt? place = some (.including text))
    (hplace : ∃ i outer, place.path = .pattern i :: outer)
    (halias : lib.NamesAlias place text target) : lib.IdleAt place where
  listed := by
    intro p i e hp hlisted he q hq
    obtain rfl := Option.some.inj (h.symm.trans he)
    obtain ⟨path, around, hnamed⟩ := halias p i hp hlisted
    have hq : lib.included p.inner (Target.ofText text) = some q := hq
    obtain rfl := Option.some.inj (hnamed.symm.trans hq)
    exact ⟨path, _, around, rfl, Entry.isHollow_including target⟩
  named := by
    intro name outer e hname
    obtain ⟨i, _, hpattern⟩ := hplace
    cases hpattern.symm.trans hname

/-! ## Rules that are switched off -/

/-- A rule that is switched off, in a list of patterns or in a repository, can be replaced by an
empty one: compiling is refused for the same reason, or all texts get the same tokens.  In a list of
patterns the rule must not be an include. -/
theorem outcome_put_blank (hengine : engine.StaysInside) (hkeyed : lib.Keyed)
    (he : lib.entryAt? place = some e) (hoff : e.isOff) (hplace : place.IsRulePlace)
    (hlisted : ∀ i outer, place.path = .pattern i :: outer → e.reference = none)
    (lines : List String) :
    (lib.put place .blank).outcome engine lines = lib.outcome engine lines := by
  have hdiffers : DiffersAt place lib (lib.put place .blank) :=
    { agrees := agreesBut_put he .blank
      rulePlace := hplace
      keyed := hkeyed
      keyed' := hkeyed.put Entry.keyed_blank place
      idle := idleAt_of_isOff he hoff hlisted
      idle' := idleAt_blank (entryAt?_put he .blank) }
  exact (hdiffers.outcome_eq hengine lines).symm

end Library

namespace Sample

/-- A grammar with one pattern, and with a match in its repository besides other entries. -/
def lettered (pattern : Entry) (others : List (String × Entry)) : Document :=
  { Document.blank with
    patterns := [pattern]
    repository := ("x", { Entry.blank with matchSource := some "a", name := some "n" }) :: others }

def letteredLibrary (pattern : Entry) (others : List (String × Entry)) : Library :=
  ⟨[("s", lettered pattern others)], "s"⟩

theorem letteredLibrary_keyed {pattern : Entry} {others : List (String × Entry)}
    (hpattern : pattern.Keyed) (hothers : ∀ p ∈ others, p.2.Keyed)
    (hkeys : (("x" :: others.map Prod.fst)).Nodup) : (letteredLibrary pattern others).Keyed where
  scopes := List.nodup_singleton _
  documents := by
    have hletter : Entry.Keyed { Entry.blank with matchSource := some "a", name := some "n" } :=
      keyed_of_patterns rfl (fun which => by cases which <;> rfl) fun _ h => by cases h
    intro p hp
    obtain rfl := List.mem_singleton.1 hp
    refine ⟨fun e he => ?_, hkeys, fun q hq => ?_⟩
    · obtain rfl := List.mem_singleton.1 he
      exact hpattern
    · rcases List.mem_cons.1 hq with rfl | hq
      · exact hletter
      · exact hothers q hq

/-- The place of the pattern. -/
def firstPattern : Place := ⟨"s", [.pattern 0]⟩

/-- An include that is switched off. -/
def offInclude : Entry := { Entry.including "#x" with disabled := some (.bool true) }

/-- The rule of the match. -/
def letterRule : Rule (List Char) := ⟨some ⟨"n"⟩, none, .single (.ofSource .literal "a") []⟩

/-- What the grammar is compiled to, with the rule that its pattern stands for. -/
def patternGrammar (rule : Rule (List Char)) : Grammar (List Char) :=
  .ofRules "s" #[⟨none, none, .container [1]⟩, rule] 0

theorem letter_tokens : (patternGrammar letterRule).tokens .literal .initial ["a"] =
    .ok [[⟨0, 1, ["s", "n"]⟩]] := by
  have hentries : patternGrammar letterRule =
      ⟨"s", #[⟨none, none, .container [1]⟩, letterRule], 0, #[[1], []]⟩ := by cbv
  rw [hentries]
  rfl

theorem blank_tokens : (patternGrammar .blank).tokens .literal .initial ["a"] =
    .ok [[⟨0, 1, ["s"]⟩]] := by
  have hentries : patternGrammar .blank =
      ⟨"s", #[⟨none, none, .container [1]⟩, .blank], 0, #[[], []]⟩ := by cbv
  rw [hentries]
  rfl

theorem offInclude_keyed : offInclude.Keyed :=
  keyed_of_patterns rfl (fun which => by cases which <;> rfl) fun _ h => by cases h

end Sample

namespace Library

theorem outcome_of_compile {g : Grammar ρ} (h : Grammar.compile engine lib = .ok (some g))
    (lines : List String) :
    lib.outcome engine lines = .ok (some (g.tokens engine .initial lines)) := by
  rw [outcome, h]
  rfl

/-- A rule of the grammar "g" is switched off. -/
theorem sample_outcome_put_blank :
    RegexEngine.literal.StaysInside ∧ Sample.hostLibrary.Keyed ∧
    (∃ e, Sample.hostLibrary.entryAt? ⟨"g", [.pattern 1]⟩ = some e ∧ e.isOff ∧
      (∀ i outer, [Step.pattern 1] = .pattern i :: outer → e.reference = none)) ∧
    (Place.mk "g" [.pattern 1]).IsRulePlace ∧
    ∀ lines, (Sample.hostLibrary.put ⟨"g", [.pattern 1]⟩ .blank).outcome .literal lines =
      Sample.hostLibrary.outcome .literal lines :=
  ⟨RegexEngine.literal_staysInside, Sample.hostLibrary_keyed,
    ⟨_, rfl, rfl, fun _ _ _ => rfl⟩, Or.inl ⟨1, [], rfl⟩,
    outcome_put_blank RegexEngine.literal_staysInside Sample.hostLibrary_keyed rfl rfl
      (Or.inl ⟨1, [], rfl⟩) fun _ _ _ => rfl⟩

/-- An include in a list of patterns is followed although it is switched off: without it the letter
has another token. -/
theorem disabled_include_counts :
    RegexEngine.literal.StaysInside ∧ (Sample.letteredLibrary Sample.offInclude []).Keyed ∧
    (Sample.letteredLibrary Sample.offInclude []).entryAt? Sample.firstPattern =
      some Sample.offInclude ∧
    Sample.offInclude.isOff ∧ Sample.firstPattern.IsRulePlace ∧
    ((Sample.letteredLibrary Sample.offInclude []).put Sample.firstPattern .blank).outcome
        .literal ["a"] ≠
      (Sample.letteredLibrary Sample.offInclude []).outcome .literal ["a"] := by
  have hfollowed : Grammar.compile .literal (Sample.letteredLibrary Sample.offInclude []) =
      .ok (some (Sample.patternGrammar Sample.letterRule)) := by cbv
  have hblank : Grammar.compile .literal ((Sample.letteredLibrary Sample.offInclude []).put
      Sample.firstPattern .blank) = .ok (some (Sample.patternGrammar .blank)) := by cbv
  refine ⟨RegexEngine.literal_staysInside,
    Sample.letteredLibrary_keyed Sample.offInclude_keyed (fun _ h => by cases h) (by decide), rfl,
    rfl, Or.inl ⟨0, [], rfl⟩, ?_⟩
  rw [outcome_of_compile hfollowed, outcome_of_compile hblank, Sample.letter_tokens,
    Sample.blank_tokens]
  simp

/-! ## Includes of includes -/

/-- Where an include stands in a list of patterns, another one is put that names an entry which only
includes the same.  This is as good as an empty rule there; so nothing is changed if the include
contributes nothing itself. -/
theorem outcome_put_alias (hengine : engine.StaysInside) (hkeyed : lib.Keyed) {target : String}
    (he : lib.entryAt? place = some (.including target))
    (hplace : ∃ i outer, place.path = .pattern i :: outer)
    (halias : (lib.put place (.including text)).NamesAlias place text target) :
    (∀ lines, (lib.put place (.including text)).outcome engine lines =
      (lib.put place .blank).outcome engine lines) ∧
    (lib.IdleAt place → ∀ lines,
      (lib.put place (.including text)).outcome engine lines = lib.outcome engine lines) := by
  have hagrees := agreesBut_put he (.including text)
  have hkeyed' := hkeyed.put (Entry.keyed_including text) place
  have hidle : (lib.put place (.including text)).IdleAt place :=
    idleAt_of_namesAlias (entryAt?_put he _) hplace halias
  constructor
  · have hdiffers : DiffersAt place (lib.put place (.including text)) (lib.put place .blank) :=
      { agrees := hagrees.symm.trans (agreesBut_put he .blank)
        rulePlace := Or.inl hplace
        keyed := hkeyed'
        keyed' := hkeyed.put Entry.keyed_blank place
        idle := hidle
        idle' := idleAt_blank (entryAt?_put he .blank) }
    exact hdiffers.outcome_eq hengine
  · intro hown
    have hdiffers : DiffersAt place (lib.put place (.including text)) lib :=
      { agrees := hagrees.symm
        rulePlace := Or.inl hplace
        keyed := hkeyed'
        keyed' := hkeyed
        idle := hidle
        idle' := hown }
    exact hdiffers.outcome_eq hengine

end Library

namespace Sample

/-- An entry of the grammar that only includes something is named in its list of patterns. -/
theorem letteredLibrary_namesAlias {text target : String} {others : List (String × Entry)}
    (hkeyed : (letteredLibrary (.including text) others).Keyed)
    (hnamed : ∃ path around, (letteredLibrary (.including text) others).included
      ((lettered (.including text) others).surroundings "s") (Target.ofText text) =
        some (.entry path (.including target) around)) :
    (letteredLibrary (.including text) others).NamesAlias firstPattern text target := by
  intro p i hp hplace
  obtain ⟨hscope, hpath⟩ := Place.mk.inj hplace
  obtain ⟨-, hpath⟩ := List.cons.inj hpath
  have hwritten := hp.written hkeyed.capturesKeyed
  -- The list of patterns is that of the grammar itself.
  cases p with
  | root scope d =>
      obtain rfl : "s" = scope := hscope
      have hdocument : Dictionary.find? "s" (letteredLibrary (.including text) others).documents =
          some (lettered (.including text) others) := rfl
      obtain rfl := Option.some.inj (hdocument.symm.trans hwritten)
      exact hnamed
  | entry path e around =>
      obtain ⟨d, _, he⟩ := hwritten
      exact absurd hpath.symm (Document.ne_nil_of_entryAt? he)
  | contents which path e around =>
      obtain ⟨d, _, he⟩ := hwritten
      exact absurd hpath.symm (Document.ne_nil_of_entryAt? he)

/-- A grammar with two entries that are only includes: "a" of what its pattern includes, and "b" of
the match. -/
def aliasing (target : String) : Library :=
  letteredLibrary (.including target) [("a", .including target), ("b", .including "#x")]

theorem aliases_keyed (text target : String) : (letteredLibrary (.including text)
    [("a", .including target), ("b", .including "#x")]).Keyed := by
  have hkeys : ["x", "a", "b"].Nodup := by decide
  refine letteredLibrary_keyed (Entry.keyed_including _) (fun p hp => ?_) hkeys
  simp only [List.mem_cons, List.not_mem_nil, or_false] at hp
  rcases hp with rfl | rfl <;> exact Entry.keyed_including _

theorem aliasing_namesAlias (target : String) :
    ((aliasing target).put firstPattern (.including "#a")).NamesAlias firstPattern "#a" target :=
  letteredLibrary_namesAlias (aliases_keyed "#a" target) ⟨[.repository "a"], _, rfl⟩

end Sample

namespace Library

/-- The include of "b" contributes nothing, since "b" is only an include itself; so that of "a" can
be put in its place. -/
theorem sample_outcome_put_alias :
    RegexEngine.literal.StaysInside ∧ (Sample.aliasing "#b").Keyed ∧
    (Sample.aliasing "#b").entryAt? Sample.firstPattern = some (.including "#b") ∧
    ((Sample.aliasing "#b").put Sample.firstPattern (.including "#a")).NamesAlias
      Sample.firstPattern "#a" "#b" ∧
    (Sample.aliasing "#b").IdleAt Sample.firstPattern ∧
    ∀ lines,
      ((Sample.aliasing "#b").put Sample.firstPattern (.including "#a")).outcome .literal lines =
        (Sample.aliasing "#b").outcome .literal lines := by
  have hkeyed : (Sample.aliasing "#b").Keyed := Sample.aliases_keyed _ _
  have hnames := Sample.aliasing_namesAlias "#b"
  have hidle : (Sample.aliasing "#b").IdleAt Sample.firstPattern :=
    idleAt_of_namesAlias rfl ⟨0, [], rfl⟩
      (Sample.letteredLibrary_namesAlias hkeyed ⟨[.repository "b"], _, rfl⟩)
  have htransparent :=
    outcome_put_alias RegexEngine.literal_staysInside hkeyed rfl ⟨0, [], rfl⟩ hnames
  exact ⟨RegexEngine.literal_staysInside, hkeyed, rfl, hnames, hidle, htransparent.2 hidle⟩

/-- The include of "a" does not stand for the match that "a" includes: with it the letter has
another token than with an include of the match. -/
theorem alias_loses :
    RegexEngine.literal.StaysInside ∧ (Sample.aliasing "#x").Keyed ∧
    (Sample.aliasing "#x").entryAt? Sample.firstPattern = some (.including "#x") ∧
    ((Sample.aliasing "#x").put Sample.firstPattern (.including "#a")).NamesAlias
      Sample.firstPattern "#a" "#x" ∧
    ((Sample.aliasing "#x").put Sample.firstPattern (.including "#a")).outcome .literal ["a"] ≠
      (Sample.aliasing "#x").outcome .literal ["a"] := by
  have hdirect : Grammar.compile .literal (Sample.aliasing "#x") =
      .ok (some (Sample.patternGrammar Sample.letterRule)) := by cbv
  have halias : Grammar.compile .literal ((Sample.aliasing "#x").put Sample.firstPattern
      (.including "#a")) = .ok (some (Sample.patternGrammar .blank)) := by cbv
  refine ⟨RegexEngine.literal_staysInside, Sample.aliases_keyed _ _, rfl,
    Sample.aliasing_namesAlias "#x", ?_⟩
  rw [outcome_of_compile hdirect, outcome_of_compile halias, Sample.letter_tokens,
    Sample.blank_tokens]
  simp

end Library

end ScopeCheck
