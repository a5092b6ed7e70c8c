import Mathlib.Data.List.MinMax
import ScopeCheck.Proofs.Engine
import ScopeCheck.Proofs.Grammar.Coherent
import ScopeCheck.Proofs.Rule.Expansion

/-!
# The choice among matches

A point of a line is matched by searching for the candidates one after the other, and the search
ends with a match at the point.  The plain rule searches for all of them and takes the match that
starts first, of those that start together the one whose candidate is listed first: `leftmost`.

* `firstOf_eq_foldl`: with a match at the point nothing that follows is better, so that ending the
  search there changes nothing;
* `foldl_choose_eraseDups`: what has been searched for before is no better either, so that a rule
  may be listed again and again;
* `Grammar.next_eq_leftmost` puts them together for the rules that are tried in a frame.
-/

namespace ScopeCheck

variable {ρ : Type}

/-! ## The first of the least -/

section Least

variable {α β : Type} {f : α → Nat} {best : Option α} {a b : α} {list : List α}

/-- What has been chosen so far is not above an element. -/
def NotAbove (f : α → Nat) (best : Option α) (a : α) : Prop :=
  ∃ b, best = some b ∧ f b ≤ f a

/-- An element is chosen if it is below what has been chosen so far, or the first. -/
abbrev choose (f : α → Nat) : Option α → α → Option α :=
  List.argAux fun a b => f a < f b

theorem choose_of_notAbove (h : NotAbove f best a) : choose f best a = best := by
  obtain ⟨b, rfl, hle⟩ := h
  exact if_neg (Nat.not_lt.2 hle)

/-- What is chosen is not above the element itself, -/
theorem notAbove_choose (f : α → Nat) (best : Option α) (a : α) :
    NotAbove f (choose f best a) a := by
  cases best with
  | none => exact ⟨a, rfl, Nat.le_refl _⟩
  | some b =>
      by_cases hlt : f a < f b
      · exact ⟨a, if_pos hlt, Nat.le_refl _⟩
      · exact ⟨b, if_neg hlt, Nat.not_lt.1 hlt⟩

/-- nor above what it was not above before. -/
theorem NotAbove.choose (h : NotAbove f best a) (b : α) : NotAbove f (choose f best b) a := by
  obtain ⟨c, rfl, hle⟩ := h
  by_cases hlt : f b < f c
  · exact ⟨b, if_pos hlt, Nat.le_of_lt (Nat.lt_of_lt_of_le hlt hle)⟩
  · exact ⟨c, if_neg hlt, hle⟩

theorem foldl_choose_of_notAbove (h : ∀ a ∈ list, NotAbove f best a) :
    list.foldl (choose f) best = best := by
  induction list with
  | nil => rfl
  | cons a rest ih =>
      obtain ⟨hfirst, hrest⟩ := List.forall_mem_cons.1 h
      rw [List.foldl_cons, choose_of_notAbove hfirst]
      exact ih hrest

variable [BEq β] [LawfulBEq β] {image : β → Option α}

/-- Elements with an image that has been chosen among may be left out. -/
theorem foldl_choose_filter {b : β} (items : List β)
    (h : ∀ a, image b = some a → NotAbove f best a) :
    ((items.filter fun c => !c == b).filterMap image).foldl (choose f) best =
      (items.filterMap image).foldl (choose f) best := by
  induction items generalizing best with
  | nil => rfl
  | cons c rest ih =>
      by_cases hsame : c = b
      · subst hsame
        rw [List.filter_cons_of_neg (by simp), ih h]
        cases himage : image c with
        | none => rw [List.filterMap_cons_none himage]
        | some a =>
            rw [List.filterMap_cons_some himage, List.foldl_cons, choose_of_notAbove (h a himage)]
      · rw [List.filter_cons_of_pos (by simpa using hsame)]
        cases himage : image c with
        | none => rw [List.filterMap_cons_none himage, List.filterMap_cons_none himage, ih h]
        | some a =>
            rw [List.filterMap_cons_some himage, List.filterMap_cons_some himage, List.foldl_cons,
              List.foldl_cons]
            exact ih fun a' ha' => (h a' ha').choose a

/-- The choice among the images of a list is that among the images of its first occurrences. -/
theorem foldl_choose_eraseDups (items : List β) (best : Option α) :
    (items.eraseDups.filterMap image).foldl (choose f) best =
      (items.filterMap image).foldl (choose f) best := by
  match items with
  | [] => rfl
  | b :: rest =>
      have hshorter := List.length_filter_le (fun c => !c == b) rest
      rw [List.eraseDups_cons]
      cases himage : image b with
      | none =>
          rw [List.filterMap_cons_none himage, List.filterMap_cons_none himage,
            foldl_choose_eraseDups]
          exact foldl_choose_filter rest fun a ha => by simp [himage] at ha
      | some a =>
          rw [List.filterMap_cons_some himage, List.filterMap_cons_some himage, List.foldl_cons,
            List.foldl_cons, foldl_choose_eraseDups]
          refine foldl_choose_filter rest fun a' ha' => ?_
          obtain rfl : a = a' := Option.some.inj (himage.symm.trans ha')
          exact notAbove_choose f best a
termination_by items.length

end Least

/-! ## The plain rule -/

/-- Matches start where the search starts or later. -/
def RegexEngine.LooksAhead (engine : RegexEngine ρ) : Prop :=
  ∀ regex text start found, engine.search regex text start = some found →
    start ≤ found.whole.start

theorem RegexEngine.SearchesForward.looksAhead {engine : RegexEngine ρ}
    (h : engine.SearchesForward) : engine.LooksAhead :=
  fun regex text start found hfound => (h regex text start found hfound).pos_le

section Leftmost

variable {search : Pattern ρ → Except PatternError (Option Found)} {pos : Nat}
  {candidates : List (Candidate × Pattern ρ)} {best : Option (Candidate × Found)}

/-- The match of a candidate, if it has one. -/
def matchOf? (search : Pattern ρ → Except PatternError (Option Found))
    (c : Candidate × Pattern ρ) : Option (Candidate × Found) :=
  match search c.2 with
  | .ok (some found) => some (c.1, found)
  | _ => none

/-- Of the matches of all candidates the one that starts first, and of those that start together
the one whose candidate is listed first. -/
def leftmost (search : Pattern ρ → Except PatternError (Option Found))
    (candidates : List (Candidate × Pattern ρ)) : Option (Candidate × Found) :=
  (candidates.filterMap (matchOf? search)).argmin fun m => m.2.whole.start

theorem matchOf?_eq_some {c : Candidate × Pattern ρ} {m : Candidate × Found}
    (h : matchOf? search c = some m) : search c.2 = .ok (some m.2) := by
  unfold matchOf? at h
  split at h
  · rename_i hfound
    cases h
    exact hfound
  · cases h

/-- A match is chosen if it starts further left than the one chosen so far. -/
theorem firstOf_of_found {candidate : Candidate} {pattern : Pattern ρ} {found : Found}
    (h : search pattern = .ok (some found)) :
    firstOf search pos best ((candidate, pattern) :: candidates) =
      if found.whole.start = pos then
        .ok (choose (fun m => m.2.whole.start) best (candidate, found))
      else
        firstOf search pos (choose (fun m => m.2.whole.start) best (candidate, found))
          candidates := by
  rw [firstOf, h]
  cases best with
  | none => rfl
  | some current => simp only [choose, List.argAux, decide_eq_true_eq]

/-- The induction is on the candidates; no match starts before `pos`, so that what follows a match
there is not below it. -/
theorem firstOf_eq_foldl (hsearch : ∀ c ∈ candidates, ∀ e, search c.2 ≠ .error e)
    (hpos : ∀ c ∈ candidates, ∀ found, search c.2 = .ok (some found) → pos ≤ found.whole.start) :
    firstOf search pos best candidates =
      .ok ((candidates.filterMap (matchOf? search)).foldl (choose fun m => m.2.whole.start)
        best) := by
  induction candidates generalizing best with
  | nil => rfl
  | cons head rest ih =>
      obtain ⟨candidate, pattern⟩ := head
      obtain ⟨hfirst, hrest⟩ := List.forall_mem_cons.1 hsearch
      obtain ⟨_, hrestPos⟩ := List.forall_mem_cons.1 hpos
      cases hresult : search pattern with
      | error e => exact absurd hresult (hfirst e)
      | ok result =>
          cases result with
          | none =>
              have hnone : matchOf? search (candidate, pattern) = none := by
                simp only [matchOf?, hresult]
              rw [firstOf, hresult, List.filterMap_cons_none hnone]
              exact ih hrest hrestPos
          | some found =>
              have hsome : matchOf? search (candidate, pattern) = some (candidate, found) := by
                simp only [matchOf?, hresult]
              rw [firstOf_of_found hresult, List.filterMap_cons_some hsome, List.foldl_cons]
              split
              · rename_i hhere
                rw [foldl_choose_of_notAbove]
                intro m hm
                obtain ⟨c, hc, hmatch⟩ := List.mem_filterMap.1 hm
                obtain ⟨b, hb, hle⟩ := notAbove_choose (fun m => m.2.whole.start) best
                  (candidate, found)
                have hmpos := hrestPos c hc m.2 (matchOf?_eq_some hmatch)
                exact ⟨b, hb, Nat.le_trans hle (Nat.le_trans (Nat.le_of_eq hhere) hmpos)⟩
              · exact ih hrest hrestPos

end Leftmost

namespace Grammar

variable {engine : RegexEngine ρ} {g : Grammar ρ} {text : Array Char} {point : ScanPoint}
  {frame : Frame ρ}

/-- A rule with the pattern that starts it. -/
def startOf? (g : Grammar ρ) (id : RuleIndex) : Option (Candidate × Pattern ρ) :=
  ((g.rule id).entryPattern?).map fun p => (.rule id, p)

/-- The candidates of a frame in which these rules are tried: the patterns that start them, in
order, and the end pattern of the frame, as it has been filled in or as it is written, in front of
them, or behind them if it is tried last. -/
def candidatesAmong (g : Grammar ρ) (frame : Frame ρ) (ids : List RuleIndex) :
    List (Candidate × Pattern ρ) :=
  match (g.rule frame.rule).form with
  | .region _ _ last _ true _ =>
    ids.filterMap g.startOf? ++ [(.last, frame.filledLast.getD last)]
  | .region _ _ last _ false _ =>
    (.last, frame.filledLast.getD last) :: ids.filterMap g.startOf?
  | _ => ids.filterMap g.startOf?

theorem candidates_eq (g : Grammar ρ) (frame : Frame ρ) :
    g.candidates frame = g.candidatesAmong frame (g.entriesOf frame.rule) := by
  unfold candidates candidatesAmong
  split
  · rename_i triedLast _ hform
    cases triedLast with
    | false =>
        simp only [hform]
        rfl
    | true =>
        simp only [hform]
        rfl
  · rename_i hform
    split
    · rename_i hregion
      exact absurd hregion (hform _ _ _ _ _ _)
    · rename_i hregion
      exact absurd hregion (hform _ _ _ _ _ _)
    · rfl

/-- The matches of candidates are those of the rules, with that of the end pattern in front of them
or behind. -/
theorem exists_matches (g : Grammar ρ) (frame : Frame ρ)
    (search : Pattern ρ → Except PatternError (Option Found)) :
    ∃ before after : List (Candidate × Found), ∀ ids,
      (g.candidatesAmong frame ids).filterMap (matchOf? search) =
        before ++ ids.filterMap (fun id => (g.startOf? id).bind (matchOf? search)) ++ after := by
  unfold candidatesAmong
  split
  · rename_i last _ _ _
    refine ⟨[], [(.last, frame.filledLast.getD last)].filterMap (matchOf? search), fun ids => ?_⟩
    rw [List.filterMap_append, List.filterMap_filterMap, List.nil_append]
  · rename_i last _ _ _
    refine ⟨[(.last, frame.filledLast.getD last)].filterMap (matchOf? search), [], fun ids => ?_⟩
    rw [← List.singleton_append, List.filterMap_append, List.filterMap_filterMap, List.append_nil]
  · refine ⟨[], [], fun ids => ?_⟩
    rw [List.filterMap_filterMap, List.nil_append, List.append_nil]

/-- Rules that are listed again are not chosen. -/
theorem leftmost_eraseDups (g : Grammar ρ) (frame : Frame ρ)
    (search : Pattern ρ → Except PatternError (Option Found)) (ids : List RuleIndex) :
    leftmost search (g.candidatesAmong frame ids.eraseDups) =
      leftmost search (g.candidatesAmong frame ids) := by
  obtain ⟨before, after, hmatches⟩ := g.exists_matches frame search
  rw [leftmost, leftmost, hmatches, hmatches, List.argmin, List.argmin]
  simp only [List.foldl_append]
  rw [foldl_choose_eraseDups]

/-- What is matched at a point follows the plain rule, if no search fails: all candidates of the
frame are searched for, its end pattern in front of the rules that are tried in it, or behind them,
and of all matches the first one from the left is taken, of those that start together the one whose
candidate is listed first.  Nothing changes if the rules are listed as they are read, as often as
they stand there. -/
theorem next_eq_leftmost (hengine : engine.LooksAhead) (scopeName : String) (rules : Rules ρ)
    (root : RuleIndex) (text : Array Char) (point : ScanPoint) (frame : Frame ρ)
    (hsearch : ∀ c ∈ (ofRules scopeName rules root).candidatesAmong frame
        (rules.entryRules frame.rule), ∀ e, c.2.search engine (point.query text) ≠ .error e) :
    (ofRules scopeName rules root).next engine text point frame =
        .ok (leftmost (fun p => p.search engine (point.query text))
          ((ofRules scopeName rules root).candidatesAmong frame (rules.entryRules frame.rule))) ∧
      ∀ read, rules.Unfolds [] (rules.rule frame.rule).patterns read →
        (ofRules scopeName rules root).next engine text point frame =
          .ok (leftmost (fun p => p.search engine (point.query text))
            ((ofRules scopeName rules root).candidatesAmong frame read)) := by
  have hnext : (ofRules scopeName rules root).next engine text point frame =
      .ok (leftmost (fun p => p.search engine (point.query text))
        ((ofRules scopeName rules root).candidatesAmong frame (rules.entryRules frame.rule))) := by
    rw [next, candidates_eq, entriesOf_ofRules]
    refine firstOf_eq_foldl hsearch fun c _ found hfound => ?_
    obtain ⟨_, regex, hregex⟩ := Pattern.search_eq_some hfound
    exact hengine regex text point.pos found hregex
  refine ⟨hnext, fun read hread => ?_⟩
  rw [hnext, Rules.entryRules, Rules.expand_eq_unfold, leftmost_eraseDups,
    Rules.unfolds_iff.1 hread]

end Grammar

/-! ## Matches that start together -/

namespace Sample

/-- Inside a region a group of two rules stands twice, and one of them a third time; the end of the
region is tried last. -/
def tiedRules : Rules (List Char) :=
  #[⟨none, none, .container [1, 2, 1]⟩,
    ⟨none, none, .single (.ofSource .literal "ab") []⟩,
    ⟨none, none, .single (.ofSource .literal "a") []⟩,
    ⟨none, none,
      .region (.ofSource .literal "<") [] (.ofSource .literal "a") [] true [0, 2, 0]⟩]

/-- The region has been entered on an earlier line. -/
def tiedFrame : Frame (List Char) := ⟨3, none, none, false, ["s"], ["s"], none⟩

def tiedPoint : ScanPoint := ⟨0, none, false⟩

theorem tiedRules_entryRules : tiedRules.entryRules 3 = [1, 2] := by
  cbv

theorem tiedRules_unfolds : tiedRules.Unfolds [] [0, 2, 0] [1, 2, 1, 2, 1, 2, 1] := by
  have hgroup : tiedRules.Unfolds [0] [1, 2, 1] [1, 2, 1] :=
    .rule rfl (.rule rfl (.rule rfl .done))
  exact .expand rfl List.not_mem_nil hgroup
    (.rule rfl (.expand rfl List.not_mem_nil hgroup .done))

/-- The engine for plain texts refuses nothing. -/
theorem literal_search_ne_error (source : String) (q : Query) (e : PatternError) :
    (Pattern.ofSource .literal source).search .literal q ≠ .error e := by
  intro h
  have hpick : ∀ start entry, ∃ regex,
      (Pattern.ofSource .literal source).variants.pick start entry = .ok regex := by
    intro start entry
    unfold Pattern.ofSource
    split <;> cases start <;> cases entry <;> exact ⟨_, rfl⟩
  obtain ⟨regex, hregex⟩ := hpick q.allowStart q.allowEntry
  unfold Pattern.search at h
  rw [hregex] at h
  split at h <;> cases h

end Sample

open Sample in
/-- Three candidates match at the same place, and the first of them is chosen, as often as it is
listed. -/
theorem Grammar.sample_next_eq_leftmost :
    RegexEngine.literal.LooksAhead ∧
    (∀ c ∈ (ofRules "s" tiedRules 3).candidatesAmong tiedFrame (tiedRules.entryRules 3), ∀ e,
      c.2.search .literal (tiedPoint.query #['x', 'a', 'b']) ≠ .error e) ∧
    tiedRules.Unfolds [] (tiedRules.rule 3).patterns [1, 2, 1, 2, 1, 2, 1] ∧
    (ofRules "s" tiedRules 3).next .literal #['x', 'a', 'b'] tiedPoint tiedFrame =
      .ok (leftmost (fun p => p.search .literal (tiedPoint.query #['x', 'a', 'b']))
        ((ofRules "s" tiedRules 3).candidatesAmong tiedFrame [1, 2, 1, 2, 1, 2, 1])) := by
  have hsearch : ∀ c ∈ (ofRules "s" tiedRules 3).candidatesAmong tiedFrame
      (tiedRules.entryRules tiedFrame.rule), ∀ e,
      c.2.search .literal (tiedPoint.query #['x', 'a', 'b']) ≠ .error e := by
    intro c hc
    have hlist : (ofRules "s" tiedRules 3).candidatesAmong tiedFrame [1, 2] =
        [(.rule 1, .ofSource .literal "ab"), (.rule 2, .ofSource .literal "a"),
          (.last, .ofSource .literal "a")] := rfl
    rw [show tiedRules.entryRules tiedFrame.rule = [1, 2] from tiedRules_entryRules, hlist] at hc
    simp only [List.mem_cons, List.not_mem_nil, or_false] at hc
    obtain ⟨source, hsource⟩ : ∃ source, c.2 = Pattern.ofSource .literal source := by
      rcases hc with rfl | rfl | rfl
      · exact ⟨"ab", rfl⟩
      · exact ⟨"a", rfl⟩
      · exact ⟨"a", rfl⟩
    rw [hsource]
    exact literal_search_ne_error source _
  have hengine := RegexEngine.literal_staysInside.searchesForward.looksAhead
  exact ⟨hengine, hsearch, tiedRules_unfolds,
    (next_eq_leftmost hengine "s" tiedRules 3 #['x', 'a', 'b'] tiedPoint tiedFrame hsearch).2 _
      tiedRules_unfolds⟩

end ScopeCheck
