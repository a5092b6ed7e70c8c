import ScopeCheck.Proofs.Pattern.Anchors

/-!
# When a pattern is refused

A pattern has a variant for each choice of the anchors that are allowed, and it is refused by a
search when the engine refuses the variant that is needed there.  Reading a pattern only tries the
variant with both anchors, and none at all when the pattern quotes a begin match.

* `Pattern.search_eq_error`: what a refusal by a search says about the pattern;
* `Pattern.IsAccepted`: the variant with both anchors is accepted.  Patterns that have been read
  are accepted, or quote a begin match, and patterns that have been filled are accepted;
* `Pattern.IsAccepted.refusal`: an accepted pattern is refused for the lack of an anchor only.
-/

namespace ScopeCheck

variable {ρ : Type} {engine : RegexEngine ρ}

namespace Pattern

/-- A search that is refused names the pattern, and the variant that it needed is refused. -/
theorem search_eq_error {p : Pattern ρ} {q : Query} {e : PatternError}
    (h : p.search engine q = .error e) :
    e.source = p.source ∧ p.variants.pick q.allowStart q.allowEntry = .error e.reason := by
  unfold search at h
  split at h
  · cases h
  · split at h
    · cases h
    · rename_i reason hpick
      obtain rfl := Except.error.inj h
      exact ⟨rfl, hpick⟩

/-- A pattern whose source the engine accepts as it stands. -/
def IsAccepted (engine : RegexEngine ρ) (p : Pattern ρ) : Prop :=
  ∃ source regex, p = ofSource engine source ∧ engine.compile source = .ok regex

/-- A pattern that has been read is accepted, or it quotes a begin match. -/
theorem read_eq_ok {source : String} {p : Pattern ρ} (h : read engine source = .ok p) :
    p = ofSource engine source ∧ (p.quotesBegin = true ∨ p.IsAccepted engine) := by
  unfold read at h
  simp only at h
  split at h
  · rename_i hquotes
    obtain rfl := Except.ok.inj h
    exact ⟨rfl, Or.inl hquotes⟩
  · split at h
    · rename_i regex hboth
      obtain rfl := Except.ok.inj h
      rw [both_ofSource] at hboth
      exact ⟨rfl, Or.inr ⟨source, regex, rfl, hboth⟩⟩
    · cases h

end Pattern

/-- The engine accepts the character that never occurs as a pattern. -/
def RegexEngine.AcceptsUnmatchable (engine : RegexEngine ρ) : Prop :=
  ∃ regex, engine.compile (String.singleton Anchors.unmatchable) = .ok regex

namespace Pattern

/-- What has been put together from the texts of a begin match is accepted, or else it is replaced
by a pattern that is. -/
theorem fill_isAccepted (hengine : engine.AcceptsUnmatchable) (p : Pattern ρ) (text : Array Char)
    (found : Found) : (p.fill engine text found).IsAccepted engine := by
  unfold fill
  simp only
  split
  · rename_i regex hboth
    rw [both_ofSource] at hboth
    exact ⟨_, regex, rfl, hboth⟩
  · obtain ⟨regex, hregex⟩ := hengine
    exact ⟨_, regex, rfl, hregex⟩

/-- The engine refuses a variant of the source of a refusal, with the same reason. -/
def RefusesVariant (engine : RegexEngine ρ) (e : PatternError) : Prop :=
  ∃ allowStart allowEntry, engine.compile
    (String.ofList (Anchors.restrict allowStart allowEntry e.source.toList)) = .error e.reason

/-- The variant that a refused search needed is refused. -/
theorem refusesVariant_of_search {source : String} {q : Query} {e : PatternError}
    (h : (ofSource engine source).search engine q = .error e) :
    e.source = source ∧ RefusesVariant engine e := by
  obtain ⟨hsource, hpick⟩ := search_eq_error h
  rw [source_ofSource] at hsource
  rw [pick_ofSource, ← hsource] at hpick
  exact ⟨hsource, _, _, hpick⟩

/-- An accepted pattern is refused only where an anchor in it is not allowed. -/
theorem IsAccepted.refusal {p : Pattern ρ} (hp : p.IsAccepted engine) {q : Query}
    {e : PatternError} (h : p.search engine q = .error e) :
    RefusesVariant engine e ∧ Anchors.occur e.source.toList = true ∧
      ∃ regex, engine.compile e.source = .ok regex := by
  obtain ⟨source, regex, rfl, hregex⟩ := hp
  obtain ⟨rfl, hvariant⟩ := refusesVariant_of_search h
  refine ⟨hvariant, ?_, regex, hregex⟩
  cases hoccur : Anchors.occur e.source.toList with
  | true => rfl
  | false =>
      -- Without an anchor the variant would be the source itself, which is accepted.
      obtain ⟨allowStart, allowEntry, hrefused⟩ := hvariant
      rw [Anchors.restrict_of_not_occur hoccur, String.ofList_toList, hregex] at hrefused
      cases hrefused

end Pattern

end ScopeCheck
