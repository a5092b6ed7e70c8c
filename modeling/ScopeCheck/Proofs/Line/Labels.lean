import ScopeCheck.Proofs.Line.History
import ScopeCheck.Proofs.Line.Tiling

/-!
# The scopes of every byte

Without captures the scopes of a line can be read off its passages: the text in front of a match
gets one list of scopes, the match another one, and what is left behind the last match the scopes
of the innermost rule that is open then.

* `scopesAt` looks the scopes of a position up in a list of passages;
* `Labels` says of the tokens emitted so far that they agree with the passages so far, whatever
  comes later; the passages of conditions and of steps keep it, and the step that ends the scan of
  the line gives the rest its scopes;
* `Grammar.tokenize_labels` carries this to the tokens of the line, byte by byte.
-/

namespace ScopeCheck

open ScopeCheck.Text

variable {ρ : Type} {engine : RegexEngine ρ} {g : Grammar ρ} {scanner : Scanner ρ}
  {text line : Array Char} {state : LineState ρ} {s s' : Scan ρ} {bound depth : Nat}
  {past : List Passage} {around : List Nat}

/-! ## Labels -/

/-- The scopes of a position: those of the first passage that reaches behind it, or `rest`. -/
def scopesAt (rest : List String) : List Passage → Nat → List String
  | [], _ => rest
  | p :: later, pos =>
    if pos < p.span.start then p.outside
    else if pos < p.span.stop then p.inside
    else scopesAt rest later pos

theorem scopesAt_append (rest : List String) (past later : List Passage) (pos : Nat) :
    scopesAt rest (past ++ later) pos = scopesAt (scopesAt rest later pos) past pos := by
  induction past with
  | nil => rfl
  | cons p past ih => simp only [List.cons_append, scopesAt, ih]

/-- Behind all passages are the other scopes. -/
theorem scopesAt_of_le {rest : List String} {pos : Nat}
    (h : ∀ p ∈ past, p.span.start ≤ pos ∧ p.span.stop ≤ pos) : scopesAt rest past pos = rest := by
  induction past with
  | nil => rfl
  | cons p past ih =>
      obtain ⟨hstart, hstop⟩ := h p List.mem_cons_self
      rw [scopesAt, if_neg (Nat.not_lt.2 hstart), if_neg (Nat.not_lt.2 hstop)]
      exact ih fun q hq => h q (List.mem_cons_of_mem p hq)

/-- The tokens up to here have the scopes of the passages up to here. -/
structure Labels (past : List Passage) (e : Emitted) : Prop where
  tiles : Tiles e.tokens e.reached
  behind : ∀ p ∈ past, p.span.start ≤ e.reached ∧ p.span.stop ≤ e.reached
  scopes : ∀ t ∈ e.tokens, ∀ pos, t.start ≤ pos → pos < t.stop →
    ∀ rest, t.scopes = scopesAt rest past pos

namespace Emitted

theorem mem_upTo {e : Emitted} {scopes : List String} {stop : Nat} {t : Token}
    (h : t ∈ (e.upTo scopes stop).tokens) : t ∈ e.tokens ∨ t = ⟨e.reached, stop, scopes⟩ := by
  unfold Emitted.upTo at h
  split at h
  · exact Or.inl h
  · rcases List.mem_cons.1 h with rfl | hearlier
    · exact Or.inr rfl
    · exact Or.inl hearlier

theorem reached_upTo {e : Emitted} {stop : Nat} (h : e.reached ≤ stop) (scopes : List String) :
    (e.upTo scopes stop).reached = stop := by
  unfold Emitted.upTo
  split
  · rename_i hle
    exact Nat.le_antisymm h hle
  · rfl

theorem reached_upTo_upTo {e : Emitted} {start stop : Nat} (hstart : e.reached ≤ start)
    (hstop : start ≤ stop) (outside inside : List String) :
    ((e.upTo outside start).upTo inside stop).reached = stop :=
  reached_upTo ((reached_upTo hstart outside).symm ▸ hstop) inside

theorem upTo_of_le {e : Emitted} {stop : Nat} (h : stop ≤ e.reached) (scopes : List String) :
    e.upTo scopes stop = e :=
  if_pos h

theorem tiles_upTo {e : Emitted} (h : Tiles e.tokens e.reached) (scopes : List String)
    (stop : Nat) : Tiles (e.upTo scopes stop).tokens (e.upTo scopes stop).reached :=
  have hinside : e.Inside (max e.reached stop) := ⟨h, Nat.le_max_left _ _⟩
  (hinside.upTo scopes (Nat.le_max_right _ _)).1

end Emitted

theorem labels_none : Labels [] .none where
  tiles := rfl
  behind := by
    intro p hp
    cases hp
  scopes := by
    intro t ht
    cases ht

/-- What is left gets the scopes that stand behind all passages. -/
theorem Labels.finish {e : Emitted} (h : Labels past e) (rest : List String) {stop : Nat}
    {t : Token} (ht : t ∈ (e.upTo rest stop).tokens) {pos : Nat} (hstart : t.start ≤ pos)
    (hstop : pos < t.stop) : t.scopes = scopesAt rest past pos := by
  rcases Emitted.mem_upTo ht with hearlier | rfl
  · exact h.scopes t hearlier pos hstart hstop rest
  · refine (scopesAt_of_le fun p hp => ?_).symm
    obtain ⟨hfirst, hlast⟩ := h.behind p hp
    exact ⟨Nat.le_trans hfirst hstart, Nat.le_trans hlast hstart⟩

/-- A passage extends the tokens, by what is in front of its match and by the match. -/
theorem Labels.append {e : Emitted} (h : Labels past e) {p : Passage}
    (hstart : e.reached ≤ p.span.start) (hstop : p.span.start ≤ p.span.stop) :
    Labels (past ++ [p]) ((e.upTo p.outside p.span.start).upTo p.inside p.span.stop) := by
  have hfirst := Emitted.reached_upTo hstart p.outside
  refine ⟨Emitted.tiles_upTo (Emitted.tiles_upTo h.tiles _ _) _ _, ?_, ?_⟩
  · intro q hq
    rw [Emitted.reached_upTo_upTo hstart hstop]
    rcases List.mem_append.1 hq with hq | hq
    · obtain ⟨hqstart, hqstop⟩ := h.behind q hq
      omega
    · obtain rfl := List.mem_singleton.1 hq
      exact ⟨hstop, Nat.le_refl _⟩
  · intro t ht pos htstart htstop rest
    rw [scopesAt_append]
    rcases Emitted.mem_upTo ht with hbefore | rfl
    · -- An earlier token, or the one in front of the match, ends where the match starts or before.
      have hle := ((Emitted.tiles_upTo h.tiles p.outside p.span.start).stop_le t hbefore).2
      have hfront : pos < p.span.start := Nat.lt_of_lt_of_le htstop (hfirst ▸ hle)
      rw [show scopesAt rest [p] pos = p.outside from if_pos hfront]
      exact h.finish p.outside hbefore htstart htstop
    · -- The new token is that of the match, behind all earlier passages.
      have hbehind : p.span.start ≤ pos := hfirst ▸ htstart
      have hinside : scopesAt rest [p] pos = p.inside := by
        rw [scopesAt, if_neg (Nat.not_lt.2 hbehind), if_pos htstop]
      rw [hinside]
      refine (scopesAt_of_le fun q hq => ?_).symm
      obtain ⟨hqstart, hqstop⟩ := h.behind q hq
      omega

/-! ## Scans -/

/-- The captures of nothing change nothing. -/
theorem Covers.eq_upTo {atTextStart : Bool} {base : List String} {found : Found}
    {before after : Emitted} (h : Covers scanner text atTextStart base [] found before after) :
    after = before.upTo base found.whole.stop := by
  obtain ⟨covered, hcovered, rfl⟩ := h
  rw [← Except.ok.inj hcovered]
  rfl

namespace Grammar

/-- None of the rules has rules for captures. -/
def HasNoCaptures (g : Grammar ρ) : Prop :=
  ∀ id, (g.rule id).entryCaptures = [] ∧ (g.rule id).closingCaptures = []

theorem HasNoCaptures.capturesOf (hplain : g.HasNoCaptures) (stack : Stack ρ)
    (candidate : Candidate) : g.capturesOf stack candidate = [] := by
  obtain ⟨id, hsubset⟩ := g.capturesOf_subset stack candidate
  rw [(hplain id).1, (hplain id).2] at hsubset
  exact List.subset_nil.1 hsubset

/-- The tokens agree with the passages, and reach as far as the line has been read. -/
structure Labelled (text : Array Char) (past : List Passage) (s : Scan ρ) : Prop where
  labels : Labels past s.emitted
  reached_eq : s.emitted.reached = s.point.pos
  pos_le : s.point.pos ≤ text.size

/-- A condition that goes on adds its passage. -/
theorem labelled_invariant (hplain : g.HasNoCaptures) (hengine : engine.SearchesForward) :
    g.ConditionInvariant engine scanner text fun past _ point out =>
      Labels past out ∧ out.reached = point.pos ∧ point.pos ≤ text.size where
  skip := fun _ _ _ _ _ _ hbefore => hbefore
  goesOn := by
    rintro past frame inner point pattern captures found before after hcondition hsearch hcovers
      ⟨hlabels, hreached, _⟩
    obtain rfl : captures = [] := (condition?_captures hcondition).trans (hplain frame.rule).2
    obtain ⟨_, regex, hregex⟩ := Pattern.search_eq_some hsearch
    have hahead := hengine regex _ _ found hregex
    have hstart : before.reached ≤ found.whole.start := hreached.symm ▸ hahead.pos_le
    rw [hcovers.eq_upTo]
    refine ⟨?_, Emitted.reached_upTo_upTo hstart hahead.start_le _ _, hahead.stop_le⟩
    exact hlabels.append (p := conditionPassage frame found) hstart hahead.start_le

theorem lineStart_labelled (hplain : g.HasNoCaptures) (hengine : engine.SearchesForward)
    (h : g.lineStart engine scanner text state = .ok s) :
    Labelled text (g.linePassages engine text state) s := by
  obtain ⟨_, hlabels, hreached, hpos⟩ :=
    (labelled_invariant hplain hengine).lineStart ⟨labels_none, rfl, Nat.zero_le _⟩ h
  exact ⟨hlabels, hreached, hpos⟩

/-- A step that goes on adds its passage. -/
theorem Move.labelled (hplain : g.HasNoCaptures) (hengine : engine.SearchesForward)
    {candidate : Candidate} {found : Found} (hmove : g.Move engine scanner text s (.next s'))
    (hnext : g.next engine text s.point s.stack.top = .ok (some (candidate, found)))
    (h : Labelled text past s) :
    Labelled text (past ++ [g.passageOf text s.stack candidate found]) s' := by
  obtain ⟨hlabels, hreached, _⟩ := h
  obtain ⟨hpos, _, hcovers⟩ := hmove.passage hnext
  have hahead := next_ahead hengine hnext
  have hspan := g.span_passageOf text s.stack candidate found
  have hstart : s.emitted.reached ≤ found.whole.start := hreached.symm ▸ hahead.pos_le
  rw [hplain.capturesOf] at hcovers
  have hemitted := hcovers.eq_upTo
  refine ⟨?_, ?_, hpos ▸ hahead.stop_le⟩
  · rw [hemitted]
    rw [← hspan] at hstart ⊢
    exact hlabels.append hstart (hspan.symm ▸ hahead.start_le)
  · rw [hemitted, hpos]
    exact Emitted.reached_upTo_upTo hstart hahead.start_le _ _

/-- The step that ends a scan adds nothing but the rest of the text: what it has matched, if it has
matched anything, is empty. -/
theorem Move.halt_emitted (hplain : g.HasNoCaptures) (hengine : engine.SearchesForward)
    {reason : Halt} (hmove : g.Move engine scanner text s (.halt reason s'))
    (hreached : s.emitted.reached = s.point.pos) :
    s'.emitted = s.emitted.upTo s'.stack.bodyScopes text.size := by
  -- What covers an empty match where the tokens end is what was there.
  have hempty : ∀ {candidate found base scopes out},
      g.next engine text s.point s.stack.top = .ok (some (candidate, found)) →
      Covers scanner text s.point.atTextStart base [] found
        (s.emitted.upTo scopes found.whole.start) out →
      found.whole.stop ≤ s.point.pos → out = s.emitted := by
    intro candidate found base scopes out hnext hcovers hstop
    have hahead := next_ahead hengine hnext
    rw [hcovers.eq_upTo, Emitted.upTo_of_le (e := s.emitted)
      (hreached.symm ▸ Nat.le_trans hahead.start_le hstop)]
    exact Emitted.upTo_of_le (hreached.symm ▸ hstop) _
  cases hmove with
  | noMatch => rfl
  | emptyRegion hcover hguard =>
      have hcaptures : g.lastCaptures s.stack.top.rule = [] := hplain.capturesOf s.stack .last
      obtain ⟨hnext, hcovers⟩ := hcover
      rw [hcaptures] at hcovers
      rw [hempty hnext hcovers hguard.1]
      rfl
  | emptyMatch _ hcover hguard =>
      obtain ⟨hnext, hcovers⟩ := hcover
      rw [(hplain _).1] at hcovers
      rw [hempty hnext hcovers hguard]
  | entered _ hcover hguard =>
      obtain ⟨hnext, hcovers⟩ := hcover
      rw [(hplain _).1] at hcovers
      rw [hempty hnext hcovers hguard.1]
  | container hform hnext =>
      -- A container has no pattern that could match.
      obtain ⟨pattern, hmem, _⟩ := next_eq_some hnext
      have hentry := (mem_candidates_rule hmem).2
      rw [Rule.entryPattern?, hform] at hentry
      cases hentry

theorem VisitsAfter.labelled (hplain : g.HasNoCaptures) (hengine : engine.SearchesForward)
    (h : g.VisitsAfter engine bound line state past around depth text s) (haround : around = []) :
    text = line ∧ Labelled line past s := by
  induction h with
  | line hstart => exact ⟨rfl, lineStart_labelled hplain hengine hstart⟩
  | condition => cases haround
  | next _ hnext hstep ih =>
      obtain ⟨rfl, hlabelled⟩ := ih haround
      exact ⟨rfl, (step_move hstep).labelled hplain hengine hnext hlabelled⟩
  | inner => cases haround

end Grammar

/-! ## Tokens and bytes -/

/-- The tokens of a line that is not empty are those that have been emitted, but for the line
feed. -/
theorem Tiles.mem_toTokens {e : Emitted} {length : Nat} (h : Tiles e.tokens (length + 1))
    (hpos : 0 < length) {scopes : List String} {t : Token} (ht : t ∈ e.toTokens length scopes) :
    ∃ t' ∈ e.tokens, t.start = t'.start ∧ t.stop ≤ t'.stop ∧ t.scopes = t'.scopes := by
  obtain ⟨tokens, reached⟩ := e
  cases tokens with
  | nil => cases h
  | cons latest earlier =>
      obtain ⟨_, _, hearlier⟩ := h
      -- Only the latest token can be dropped, if it is the line feed; then another one is left.
      generalize hkept : (if latest.start = length then earlier else latest :: earlier) = kept
      have hne : kept ≠ [] := by
        rintro rfl
        split at hkept
        · rename_i hfeed
          rw [hkept, hfeed] at hearlier
          exact absurd hearlier (Nat.ne_of_gt hpos)
        · cases hkept
      have hsubset : kept ⊆ latest :: earlier := by
        rw [← hkept]
        split
        · exact List.subset_cons_self _ _
        · exact List.Subset.refl _
      simp only [Emitted.toTokens, hkept, if_neg hne] at ht
      obtain ⟨t', ht', rfl⟩ := List.mem_map.1 ht
      exact ⟨t', hsubset (List.mem_reverse.1 ht'), rfl, Nat.min_le_left _ _, rfl⟩

theorem byteLength_take_le {cs : List Char} {i j : Nat} (hij : i ≤ j) :
    byteLength (cs.take i) ≤ byteLength (cs.take j) := by
  obtain ⟨more, hmore⟩ := List.take_prefix_take_left (l := cs) hij
  rw [← hmore, byteLength_append]
  exact Nat.le_add_right _ _

/-- Every byte belongs to a character. -/
theorem exists_char_of_byte {cs : List Char} {stop byte : Nat}
    (h : byte < byteLength (cs.take stop)) :
    ∃ i < stop, byteLength (cs.take i) ≤ byte ∧ byte < byteLength (cs.take (i + 1)) := by
  induction stop with
  | zero => cases h
  | succ stop ih =>
      rcases Nat.lt_or_ge byte (byteLength (cs.take stop)) with hbefore | hlast
      · obtain ⟨i, hi, hbyte⟩ := ih hbefore
        exact ⟨i, Nat.lt_succ_of_lt hi, hbyte⟩
      · exact ⟨stop, Nat.lt_succ_self stop, hlast, h⟩

/-- A byte of a character stands in front of a position if the character does. -/
theorem byte_lt_iff {cs : List Char} {i byte : Nat} (hfirst : byteLength (cs.take i) ≤ byte)
    (hlast : byte < byteLength (cs.take (i + 1))) (pos : Nat) :
    byte < byteLength (cs.take pos) ↔ i < pos := by
  constructor
  · intro hbyte
    by_contra hpos
    have hearlier : byteLength (cs.take pos) ≤ byteLength (cs.take i) :=
      byteLength_take_le (Nat.le_of_not_lt hpos)
    omega
  · intro hpos
    exact Nat.lt_of_lt_of_le hlast (byteLength_take_le hpos)

/-- A passage with positions in bytes. -/
def Passage.inBytes (line : Array Char) (p : Passage) : Passage :=
  { p with span := ⟨byteLength (line.toList.take p.span.start),
      byteLength (line.toList.take p.span.stop)⟩ }

theorem scopesAt_inBytes {i byte : Nat} (hfirst : byteLength (line.toList.take i) ≤ byte)
    (hlast : byte < byteLength (line.toList.take (i + 1))) (rest : List String)
    (past : List Passage) :
    scopesAt rest (past.map (Passage.inBytes line)) byte = scopesAt rest past i := by
  induction past with
  | nil => rfl
  | cons p past ih =>
      simp only [List.map_cons, scopesAt, Passage.inBytes, byte_lt_iff hfirst hlast]
      rw [← ih]

/-- The scopes of the characters of a token are those of its bytes. -/
theorem Token.scopes_of_byte {line : String} {t : Token} {rest : List String} {byte : Nat}
    (hlength : t.start ≤ line.toList.length ∧ t.stop ≤ line.toList.length)
    (hscopes : ∀ i, t.start ≤ i → i < t.stop → t.scopes = scopesAt rest past i)
    (hstart : (t.inBytes (byteOffsets line.toList)).start ≤ byte)
    (hstop : byte < (t.inBytes (byteOffsets line.toList)).stop) :
    (t.inBytes (byteOffsets line.toList)).scopes =
      scopesAt rest (past.map (Passage.inBytes (lineText line))) byte := by
  rw [Token.inBytes_eq hlength.1 hlength.2] at hstart hstop ⊢
  obtain ⟨i, hi, hfirst, hlast⟩ := exists_char_of_byte hstop
  -- The character of the byte is one of those of the token.
  have hbehind : t.start ≤ i := by
    by_contra hfront
    have hnext : i + 1 ≤ t.start := Nat.lt_of_not_le hfront
    have hearlier := Nat.le_trans (byteLength_take_le hnext) hstart
    exact absurd hlast (Nat.not_lt.2 hearlier)
  -- In front of the line feed, the text that is scanned is the line.
  have hfeed : ∀ j ≤ line.toList.length,
      (lineText line).toList.take j = line.toList.take j := by
    intro j hj
    rw [lineText, List.toList_toArray, List.take_append_of_le_length hj]
  have hchar : i + 1 ≤ line.toList.length := Nat.le_trans hi hlength.2
  rw [scopesAt_inBytes (i := i) (by rwa [hfeed i (Nat.le_of_succ_le hchar)])
    (by rwa [hfeed (i + 1) hchar])]
  exact hscopes i hbehind hi

/-- In a grammar without rules for captures every byte of a line has the scopes that its passages
give it: each match that the line is read by, and the text in front of it, has its own, and what is
left has those of the innermost rule that is open at the end.  The tokens cover each byte once. -/
theorem Grammar.tokenize_labels (hengine : engine.SearchesForward) (hplain : g.HasNoCaptures)
    {line : String} {result : LineResult ρ} (hline : g.tokenize engine line state = .ok result)
    (hne : line ≠ "") :
    ∃ past stack, g.ReadsLine engine (lineText line) state past stack ∧
      result.state = .inside stack ∧ TilesLine line result.tokens ∧
      ∀ t ∈ result.tokens, ∀ byte, t.start ≤ byte → byte < t.stop →
        t.scopes = scopesAt stack.bodyScopes (past.map (Passage.inBytes (lineText line))) byte := by
  obtain ⟨s', hscan, hstate, htokens⟩ := tokenize_eq_ok hline
  obtain ⟨past, depth, s, reason, hbound, hvisits, hhalt⟩ := scanLine_halt hscan
  obtain ⟨_, hlabels, hreached, hinside⟩ := hvisits.labelled hplain hengine rfl
  have hemitted := (step_move hhalt).halt_emitted hplain hengine hreached
  have hpos : 0 < line.toList.length :=
    List.length_pos_of_ne_nil (mt String.toList_eq_nil_iff.1 hne)
  have hsize : (line.toList ++ ['\n']).toArray.size = line.toList.length + 1 := by
    rw [List.size_toArray, List.length_append, List.length_singleton]
  -- The tokens tile the line with its line feed.
  have htiles : Tiles s'.emitted.tokens (line.toList.length + 1) := by
    have hend := Emitted.tiles_upTo hlabels.tiles s'.stack.bodyScopes (line.toList.length + 1)
    rw [hsize] at hemitted hinside
    rw [Emitted.reached_upTo (hreached.symm ▸ hinside), ← hemitted] at hend
    exact hend
  obtain ⟨_, tokens, hkept, htoTokens⟩ :=
    (Emitted.toTokens_tiles htiles s'.stack.bodyScopes).resolve_left fun hempty =>
      Nat.ne_of_gt hpos hempty.1
  refine ⟨past, s'.stack, ⟨depth, s, reason, s', hbound, hvisits, hhalt, rfl⟩, hstate, ?_, ?_⟩
  · rw [htokens, htoTokens]
    exact hkept.tilesLine hpos
  · intro t ht byte hstart hstop
    rw [htokens] at ht
    obtain ⟨cut, hcut, rfl⟩ := List.mem_map.1 ht
    obtain ⟨t', ht', hcutStart, hcutStop, hcutScopes⟩ :=
      htiles.mem_toTokens hpos hcut
    have hmem : cut ∈ tokens := List.mem_reverse.1 (htoTokens ▸ hcut)
    obtain ⟨hlt, hle⟩ := hkept.stop_le cut hmem
    refine Token.scopes_of_byte ⟨Nat.le_of_lt (Nat.lt_of_lt_of_le hlt hle), hle⟩ ?_ hstart hstop
    intro i hfirst hlast
    rw [hcutScopes]
    rw [hemitted, hsize] at ht'
    exact hlabels.finish s'.stack.bodyScopes ht' (hcutStart ▸ hfirst)
      (Nat.lt_of_lt_of_le hlast hcutStop)

/-! ## A line of notes -/

namespace Sample

/-- Notes stand in lines that start with `-`, and tags in them go from `<` to `>`. -/
def notesDocument : Document :=
  let word : Entry := { Entry.blank with matchSource := some "x", name := some "word" }
  let tag : Entry := { Entry.blank with
    beginSource := some "<"
    endSource := some ">"
    name := some "tag"
    contentName := some "body"
    patterns := some [word] }
  { Document.blank with patterns := [{ Entry.blank with
    beginSource := some "-"
    whileSource := some "-"
    name := some "note"
    contentName := some "text"
    patterns := some [tag] }] }

/-- The grammar that is read from the document. -/
def notesGrammar : Grammar (List Char) where
  scopeName := "s"
  rules := #[⟨none, none, .container [1]⟩,
    ⟨some ⟨"note"⟩, some ⟨"text"⟩, .during (pattern "-") [] (pattern "-") [] [2]⟩,
    ⟨some ⟨"tag"⟩, some ⟨"body"⟩, .region (pattern "<") [] (pattern ">") [] false [3]⟩,
    ⟨some ⟨"word"⟩, none, .single (pattern "x") []⟩]
  root := 0
  entries := #[[1], [2], [3], []]

theorem notesGrammar_loaded : notesGrammar.Loaded .literal := by
  refine ⟨.ofDocuments [("s", notesDocument)], "s", ?_⟩
  cbv

/-- The stack behind a line that starts notes. -/
def insideNotes : Stack (List Char) :=
  ⟨⟨1, some 0, none, false, ["s", "note"], ["s", "note", "text"], none⟩,
    (Stack.root 0 "s").frames⟩

end Sample

/-- A line of notes with a tag in it. -/
theorem Grammar.sample_tokenize_labels :
    Sample.notesGrammar.Loaded .literal ∧
    RegexEngine.literal.SearchesForward ∧ Sample.notesGrammar.HasNoCaptures ∧
    ("-é<x>b" ≠ "" ∧ ∃ result,
      Sample.notesGrammar.tokenize .literal "-é<x>b" (.inside Sample.insideNotes) = .ok result ∧
      ∃ past stack, Sample.notesGrammar.ReadsLine .literal (lineText "-é<x>b")
          (.inside Sample.insideNotes) past stack ∧
        result.state = .inside stack ∧ TilesLine "-é<x>b" result.tokens ∧
        ∀ t ∈ result.tokens, ∀ byte, t.start ≤ byte → byte < t.stop →
          t.scopes = scopesAt stack.bodyScopes
            (past.map (Passage.inBytes (lineText "-é<x>b"))) byte) := by
  have hplain : Sample.notesGrammar.HasNoCaptures := by
    intro id
    match id with
    | 0 | 1 | 2 | 3 => exact ⟨rfl, rfl⟩
    | index + 4 => exact ⟨rfl, rfl⟩
  have hline : Sample.notesGrammar.tokenize .literal "-é<x>b" (.inside Sample.insideNotes) =
      .ok ⟨[⟨0, 1, ["s", "note", "text"]⟩, ⟨1, 3, ["s", "note", "text"]⟩,
          ⟨3, 4, ["s", "note", "text", "tag"]⟩,
          ⟨4, 5, ["s", "note", "text", "tag", "body", "word"]⟩,
          ⟨5, 6, ["s", "note", "text", "tag"]⟩, ⟨6, 7, ["s", "note", "text"]⟩],
        .inside Sample.insideNotes.forNextLine⟩ := by
    rfl
  have hengine := RegexEngine.literal_staysInside.searchesForward
  exact ⟨Sample.notesGrammar_loaded, hengine, hplain, by decide, _, hline,
    tokenize_labels hengine hplain hline (by decide)⟩

end ScopeCheck
