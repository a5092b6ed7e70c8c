import Mathlib.Data.List.Chain
import ScopeCheck.Proofs.Line.Occurrence

/-!
# Tokens tile their line

Tokens are emitted from the left, each from where the one before it ends.  `Tiles` says so of the
tokens that have been emitted, the latest first.

* `Emitted.Inside` is kept by every extension up to a position of the text, and from there by the
  captures of a match, by steps, by scans and by the conditions of open rules;
* a scan ends behind its text, so the tokens reach behind the line feed;
* `Emitted.toTokens` cuts the line feed off, and `Tiles.inBytes` changes to positions in bytes.
-/

namespace ScopeCheck

open ScopeCheck.Text

variable {ρ : Type} {engine : RegexEngine ρ} {g : Grammar ρ} {scanner : Scanner ρ}
  {text : Array Char} {state : LineState ρ} {s : Scan ρ} {limit : Nat}

/-- The tokens, the latest first, tile the text up to a position; none of them is empty. -/
def Tiles : List Token → Nat → Prop
  | [], reached => reached = 0
  | t :: earlier, reached => t.stop = reached ∧ t.start < t.stop ∧ Tiles earlier t.start

namespace Emitted

/-- The tokens tile the text up to a position, which is at most `limit`. -/
def Inside (limit : Nat) (e : Emitted) : Prop :=
  Tiles e.tokens e.reached ∧ e.reached ≤ limit

theorem inside_none (limit : Nat) : Emitted.none.Inside limit :=
  ⟨rfl, Nat.zero_le limit⟩

theorem Inside.mono {e : Emitted} {pos : Nat} (h : e.Inside pos) (hle : pos ≤ limit) :
    e.Inside limit :=
  ⟨h.1, Nat.le_trans h.2 hle⟩

/-- An extension starts where the last token ends. -/
theorem Inside.upTo {e : Emitted} (h : e.Inside limit) (scopes : List String) {stop : Nat}
    (hstop : stop ≤ limit) : (e.upTo scopes stop).Inside limit := by
  unfold Emitted.upTo
  split
  · exact h
  · rename_i hnew
    refine ⟨⟨rfl, ?_, h.1⟩, hstop⟩
    show e.reached < stop
    omega

theorem le_reached_upTo (e : Emitted) (scopes : List String) (stop : Nat) :
    stop ≤ (e.upTo scopes stop).reached := by
  unfold Emitted.upTo
  split
  · assumption
  · exact Nat.le_refl stop

end Emitted

/-! ## Scans -/

theorem Found.IsBound.le {found : Found} {size pos bound : Nat} (hbound : found.IsBound bound)
    (hahead : found.Ahead size pos) (hgroups : found.GroupsInside size) : bound ≤ size := by
  obtain ⟨number, span, hspan, hpos⟩ := hbound
  obtain ⟨hstart, hstop⟩ := Found.span?_inside hahead hgroups hspan
  rcases hpos with rfl | rfl
  · exact hstart
  · exact hstop

/-- A scan keeps to the bound of its text. -/
def Scanner.StaysBelow (scanner : Scanner ρ) (limit : Nat) : Prop :=
  ∀ text s s', text.size ≤ limit → s.emitted.Inside limit → scanner text s = .ok s' →
    s'.emitted.Inside limit

/-- A match that has been given its scopes reaches no further than its groups, and than the text
that had its scopes before. -/
theorem Covers.inside_of_bounds {atTextStart : Bool} {base scopes : List String}
    {captures : GroupRules} {found : Found} {before after : Emitted}
    (hscanner : scanner.StaysBelow limit) (hbounds : ∀ pos, found.IsBound pos → pos ≤ limit)
    (hcover : Covers scanner text atTextStart base captures found
      (before.upTo scopes found.whole.start) after)
    (hbefore : before.Inside limit) : after.Inside limit := by
  have hstart : found.IsBound found.whole.start := ⟨0, found.whole, rfl, Or.inl rfl⟩
  refine Covers.preserves ?_ hcover ?_ (hbefore.upTo scopes (hbounds _ hstart))
  · intro out scopes bound hout _ hbound
    exact hout.upTo scopes (hbounds bound hbound)
  · intro number rule container span out s _ _ hspan hout hs
    refine hscanner _ _ s ?_ hout hs
    -- The text that is scanned ends with the group.
    have hstop := hbounds _ (Found.isBound_stop hspan)
    rw [Array.size_extract]
    omega

/-- A match that has been given its scopes, with the text before it, lies inside the text. -/
theorem Covers.inside {atTextStart : Bool} {base scopes : List String} {captures : GroupRules}
    {found : Found} {pos : Nat} {before after : Emitted} (hscanner : scanner.StaysBelow limit)
    (hlimit : text.size ≤ limit) (hahead : found.Ahead text.size pos)
    (hgroups : found.GroupsInside text.size)
    (hcover : Covers scanner text atTextStart base captures found
      (before.upTo scopes found.whole.start) after)
    (hbefore : before.Inside limit) : after.Inside limit :=
  hcover.inside_of_bounds hscanner
    (fun _ hbound => Nat.le_trans (hbound.le hahead hgroups) hlimit) hbefore

namespace Grammar

/-- All that a step emits lies inside the text. -/
theorem Move.inside (hengine : engine.StaysInside) (hscanner : scanner.StaysBelow limit)
    (hlimit : text.size ≤ limit) {r : ScanStep ρ} (hmove : g.Move engine scanner text s r)
    (hs : s.emitted.Inside limit) : r.scan.emitted.Inside limit := by
  have hcovered : ∀ {candidate found base captures scopes out},
      g.next engine text s.point s.stack.top = .ok (some (candidate, found)) →
      Covers scanner text s.point.atTextStart base captures found
        (s.emitted.upTo scopes found.whole.start) out → out.Inside limit := by
    intro candidate found base captures scopes out hnext hcover
    exact hcover.inside hscanner hlimit (next_ahead hengine.searchesForward hnext)
      (next_groupsInside hengine hnext) hs
  cases hmove with
  | noMatch => exact hs.upTo _ hlimit
  | leave hcover => exact hcovered hcover.1 hcover.2
  | emptyRegion hcover => exact (hcovered hcover.1 hcover.2).upTo _ hlimit
  | single _ hcover => exact hcovered hcover.1 hcover.2
  | emptyMatch _ hcover => exact (hcovered hcover.1 hcover.2).upTo _ hlimit
  | enter _ hcover => exact hcovered hcover.1 hcover.2
  | entered _ hcover => exact (hcovered hcover.1 hcover.2).upTo _ hlimit
  | container _ hnext =>
      have hahead := next_ahead hengine.searchesForward hnext
      have hstart := Nat.le_trans hahead.start_le hahead.stop_le
      exact (hs.upTo _ (Nat.le_trans hstart hlimit)).upTo _ hlimit

theorem scan_staysBelow (hengine : engine.StaysInside) (depth limit : Nat) :
    Scanner.StaysBelow (g.scan engine depth) limit := by
  intro text s s' hlimit hs hscan
  have hrelates := scan_relates engine g (fun text _ => text.size ≤ limit)
    (fun _ s s' => s.emitted.Inside limit → s'.emitted.Inside limit)
    (fun hst htu hs => htu (hst hs))
    (fun hscanner hlimit hstep => ⟨(step_move hstep).inside hengine
      (fun text s s' hlimit hs h => hscanner hlimit h hs) hlimit, hlimit⟩) hlimit hscan
  exact hrelates.1 hs

/-- A step that ends a scan gives scopes to all that is left of the text. -/
theorem Move.size_le_reached {reason : Halt} {s' : Scan ρ}
    (hmove : g.Move engine scanner text s (.halt reason s')) : text.size ≤ s'.emitted.reached := by
  cases hmove with
  | noMatch => exact Emitted.le_reached_upTo _ _ _
  | emptyRegion => exact Emitted.le_reached_upTo _ _ _
  | emptyMatch => exact Emitted.le_reached_upTo _ _ _
  | entered => exact Emitted.le_reached_upTo _ _ _
  | container => exact Emitted.le_reached_upTo _ _ _

theorem lineStart_inside (hengine : engine.StaysInside) (hscanner : scanner.StaysBelow text.size)
    (h : g.lineStart engine scanner text state = .ok s) : s.emitted.Inside text.size := by
  refine lineStart_preserves ?_ h (Emitted.inside_none _)
  intro frame _ pattern captures point found before after _ hsearch hcover hbefore
  obtain ⟨_, regex, hregex⟩ := Pattern.search_eq_some hsearch
  obtain ⟨hahead, hgroups⟩ := hengine regex _ _ found hregex
  exact hcover.inside hscanner (Nat.le_refl _) hahead hgroups hbefore

/-- The tokens of a line tile its text, with the line feed. -/
theorem scanLine_tiles (hengine : engine.StaysInside)
    (h : g.scanLine engine text state = .ok s) : Tiles s.emitted.tokens text.size := by
  obtain ⟨start, hstart, hscan⟩ := scanLine_eq_ok h
  have hscanner : Scanner.StaysBelow (g.scan engine (g.nestingBound text)) text.size :=
    scan_staysBelow hengine _ _
  have hinside := hscanner text start s (Nat.le_refl _)
    (lineStart_inside hengine hscanner hstart) hscan
  have hreached : text.size ≤ s.emitted.reached := by
    obtain ⟨_, _, _, _, _, hhalt⟩ := scan_eq_ok hscan
    exact (step_move hhalt).size_le_reached
  obtain ⟨htiles, hle⟩ := hinside
  rw [Nat.le_antisymm hle hreached] at htiles
  exact htiles

end Grammar

/-! ## The tokens of a line -/

/-- A token that ends at a position at the latest. -/
def Token.cut (limit : Nat) (t : Token) : Token := { t with stop := min t.stop limit }

theorem Tiles.cut_eq {tokens : List Token} {reached : Nat} (h : Tiles tokens reached)
    (hreached : reached ≤ limit) : tokens.map (Token.cut limit) = tokens := by
  induction tokens generalizing reached with
  | nil => rfl
  | cons t earlier ih =>
      obtain ⟨hstop, hlt, hearlier⟩ := h
      have hcut : t.cut limit = t := by
        rw [Token.cut, Nat.min_eq_left (by omega)]
      rw [List.map_cons, hcut, ih hearlier (by omega)]

/-- Without the line feed, the tokens tile the line; an empty line gets one empty token. -/
theorem Emitted.toTokens_tiles {e : Emitted} {length : Nat} (h : Tiles e.tokens (length + 1))
    (scopes : List String) :
    (length = 0 ∧ e.toTokens length scopes = [⟨0, 0, scopes⟩]) ∨
      0 < length ∧ ∃ tokens, Tiles tokens length ∧ e.toTokens length scopes = tokens.reverse := by
  obtain ⟨tokens, reached⟩ := e
  cases tokens with
  | nil => cases h
  | cons t earlier =>
      obtain ⟨hstop, hlt, hearlier⟩ := h
      have htokens : ∀ kept, (if t.start = length then earlier else t :: earlier) = kept →
          kept ≠ [] → Emitted.toTokens ⟨t :: earlier, reached⟩ length scopes =
            (kept.map (Token.cut length)).reverse := by
        intro kept hkept hne
        rw [← List.map_reverse]
        simp only [Emitted.toTokens, hkept, if_neg hne]
        rfl
      by_cases hfeed : t.start = length
      · -- The latest token is the line feed alone.
        rw [hfeed] at hearlier
        cases hkept : earlier with
        | nil =>
            rw [hkept] at hearlier
            obtain rfl : length = 0 := hearlier
            refine Or.inl ⟨rfl, ?_⟩
            simp [Emitted.toTokens, hfeed]
        | cons t' earlier' =>
            rw [← hkept]
            have hne : earlier ≠ [] := by
              rw [hkept]
              exact List.cons_ne_nil _ _
            have hpos : 0 < length := by
              rw [hkept] at hearlier
              have := hearlier.1
              have := hearlier.2.1
              omega
            refine Or.inr ⟨hpos, earlier, hearlier, ?_⟩
            rw [htokens earlier (if_pos hfeed) hne, hearlier.cut_eq (Nat.le_refl length)]
      · refine Or.inr ⟨by omega, t.cut length :: earlier, ?_, ?_⟩
        · refine ⟨?_, ?_, hearlier⟩
          · show min t.stop length = length
            omega
          · show t.start < min t.stop length
            omega
        · rw [htokens (t :: earlier) (if_neg hfeed) (List.cons_ne_nil _ _), List.map_cons,
            hearlier.cut_eq (by omega)]

/-! ## Positions in bytes -/

/-- The step with which `byteOffsets` goes through a text adds a position to those before it. -/
theorem foldl_byteOffsets (cs : List Char) (offsets : Array Nat) (total : Nat) :
    (cs.foldl (fun (offsets, total) c =>
        (offsets.push (total + c.utf8Size), total + c.utf8Size)) (offsets, total)).1.toList =
      offsets.toList ++
        (List.range cs.length).map fun i => total + byteLength (cs.take (i + 1)) := by
  induction cs generalizing offsets total with
  | nil => simp
  | cons c cs ih =>
      rw [List.foldl_cons, ih, List.length_cons, List.range_succ_eq_map]
      simp [byteLength_cons, byteLength_nil, Function.comp_def, Nat.add_assoc]

/-- Before the character with a number stand the bytes of the characters before it. -/
theorem getElem?_byteOffsets {cs : List Char} {i : Nat} (hi : i ≤ cs.length) :
    (byteOffsets cs)[i]? = some (byteLength (cs.take i)) := by
  have hlist : (byteOffsets cs).toList =
      0 :: (List.range cs.length).map fun i => 0 + byteLength (cs.take (i + 1)) :=
    foldl_byteOffsets cs #[0] 0
  rw [← Array.getElem?_toList, hlist]
  cases i with
  | zero => rfl
  | succ i =>
      rw [List.getElem?_cons_succ, List.getElem?_map, List.getElem?_range (by omega),
        Option.map_some, Nat.zero_add]

theorem byteLength_take_lt {cs : List Char} {i j : Nat} (hij : i < j) (hj : j ≤ cs.length) :
    byteLength (cs.take i) < byteLength (cs.take j) := by
  induction cs generalizing i j with
  | nil =>
      have : j = 0 := by simpa using hj
      omega
  | cons c cs ih =>
      obtain ⟨j, rfl⟩ : ∃ k, j = k + 1 := ⟨j - 1, by omega⟩
      have hsize := c.utf8Size_pos
      cases i with
      | zero =>
          rw [List.take_succ_cons, byteLength_cons, List.take_zero, byteLength_nil]
          omega
      | succ i =>
          have := ih (i := i) (j := j) (by omega) (by simpa using hj)
          rw [List.take_succ_cons, List.take_succ_cons, byteLength_cons, byteLength_cons]
          omega

theorem utf8ByteSize_ofList (cs : List Char) :
    (String.ofList cs).utf8ByteSize = byteLength cs := by
  induction cs with
  | nil => rfl
  | cons c cs ih =>
      rw [String.ofList_cons, String.utf8ByteSize_append, String.utf8ByteSize_singleton, ih,
        byteLength_cons]

/-- The bounds of a token are places between characters. -/
theorem Token.inBytes_eq {cs : List Char} {t : Token} (hstart : t.start ≤ cs.length)
    (hstop : t.stop ≤ cs.length) : t.inBytes (byteOffsets cs) =
      ⟨byteLength (cs.take t.start), byteLength (cs.take t.stop), t.scopes⟩ := by
  rw [Token.inBytes, getElem?_byteOffsets hstart, getElem?_byteOffsets hstop, Option.getD_some,
    Option.getD_some]

theorem Tiles.stop_le {tokens : List Token} {reached : Nat} (h : Tiles tokens reached) :
    ∀ t ∈ tokens, t.start < t.stop ∧ t.stop ≤ reached := by
  induction tokens generalizing reached with
  | nil =>
      intro t ht
      cases ht
  | cons t earlier ih =>
      obtain ⟨hstop, hlt, hearlier⟩ := h
      intro t' ht'
      rcases List.mem_cons.1 ht' with rfl | ht'
      · exact ⟨hlt, Nat.le_of_eq hstop⟩
      · obtain ⟨hlt', hle⟩ := ih hearlier t' ht'
        exact ⟨hlt', by omega⟩

theorem Tiles.inBytes {cs : List Char} {tokens : List Token} {reached : Nat}
    (h : Tiles tokens reached) (hreached : reached ≤ cs.length) :
    Tiles (tokens.map (·.inBytes (byteOffsets cs))) (byteLength (cs.take reached)) := by
  induction tokens generalizing reached with
  | nil =>
      obtain rfl : reached = 0 := h
      rfl
  | cons t earlier ih =>
      obtain ⟨rfl, hlt, hearlier⟩ := h
      have hstart : t.start ≤ cs.length := by omega
      rw [List.map_cons, Token.inBytes_eq hstart hreached]
      exact ⟨rfl, byteLength_take_lt hlt hreached, ih hearlier hstart⟩

/-! ## The result of a line -/

/-- Tokens, with positions in bytes, that cover a line from its start to its end, each from where
the one before it ends. -/
structure TilesLine (line : String) (tokens : List Token) : Prop where
  ne_nil : tokens ≠ []
  starts : tokens.head?.map Token.start = some 0
  adjacent : tokens.IsChain fun t following => following.start = t.stop
  ends : tokens.getLast?.map Token.stop = some line.utf8ByteSize
  /-- All bounds stand between characters. -/
  boundaries : ∀ t ∈ tokens, String.Pos.Raw.IsValid line ⟨t.start⟩ ∧
    String.Pos.Raw.IsValid line ⟨t.stop⟩
  nonempty : line ≠ "" → ∀ t ∈ tokens, t.start < t.stop
  empty : line = "" → ∃ scopes, tokens = [⟨0, 0, scopes⟩]

theorem Tiles.starts {tokens : List Token} {reached : Nat} (h : Tiles tokens reached)
    (hne : tokens ≠ []) : tokens.getLast?.map Token.start = some 0 := by
  induction tokens generalizing reached with
  | nil => exact absurd rfl hne
  | cons t earlier ih =>
      obtain ⟨_, _, hearlier⟩ := h
      cases earlier with
      | nil => exact congrArg some hearlier
      | cons t' earlier =>
          rw [List.getLast?_cons_cons]
          exact ih hearlier (List.cons_ne_nil _ _)

theorem Tiles.adjacent {tokens : List Token} {reached : Nat} (h : Tiles tokens reached) :
    tokens.IsChain fun following t => following.start = t.stop := by
  induction tokens generalizing reached with
  | nil => exact .nil
  | cons t earlier ih =>
      obtain ⟨_, _, hearlier⟩ := h
      cases earlier with
      | nil => exact .singleton t
      | cons t' earlier => exact .cons_cons hearlier.1.symm (ih hearlier)

theorem isValid_byteLength_take (line : String) (i : Nat) :
    String.Pos.Raw.IsValid line ⟨byteLength (line.toList.take i)⟩ := by
  have hvalid : String.Pos.Raw.IsValid (String.ofList line.toList)
      ⟨byteLength (line.toList.take i)⟩ := by
    rw [String.Pos.Raw.isValid_ofList]
    exact ⟨i, (utf8ByteSize_ofList _).symm⟩
  rwa [String.ofList_toList] at hvalid

/-- The tokens of a line that is not empty, from its characters to its bytes. -/
theorem Tiles.tilesLine {line : String} {tokens : List Token}
    (h : Tiles tokens line.toList.length) (hpos : 0 < line.toList.length) :
    TilesLine line (tokens.reverse.map (·.inBytes (byteOffsets line.toList))) := by
  have hsize : byteLength (line.toList.take line.toList.length) = line.utf8ByteSize := by
    rw [List.take_length, ← utf8ByteSize_ofList, String.ofList_toList]
  have hline : line ≠ "" := by
    rintro rfl
    exact absurd hpos (Nat.lt_irrefl 0)
  have hbytes := h.inBytes (Nat.le_refl _)
  rw [hsize] at hbytes
  rw [List.map_reverse]
  have hne : tokens.map (·.inBytes (byteOffsets line.toList)) ≠ [] := by
    intro hnil
    rw [List.map_eq_nil_iff.1 hnil] at h
    have hzero : line.toList.length = 0 := h
    omega
  refine ⟨?_, ?_, ?_, ?_, ?_, ?_, ?_⟩
  · exact fun hnil => hne (List.reverse_eq_nil_iff.1 hnil)
  · rw [List.head?_reverse]
    exact hbytes.starts hne
  · rw [List.isChain_reverse]
    exact hbytes.adjacent
  · rw [List.getLast?_reverse]
    generalize tokens.map _ = bytes at hbytes hne
    cases bytes with
    | nil => exact absurd rfl hne
    | cons t earlier => exact congrArg some hbytes.1
  · intro t ht
    obtain ⟨t, hmem, rfl⟩ := List.mem_map.1 (List.mem_reverse.1 ht)
    obtain ⟨hlt, hle⟩ := h.stop_le t hmem
    rw [Token.inBytes_eq (by omega) hle]
    exact ⟨isValid_byteLength_take line _, isValid_byteLength_take line _⟩
  · intro _ t ht
    exact (hbytes.stop_le t (List.mem_reverse.1 ht)).1
  · exact fun hempty => absurd hempty hline

/-- The tokens of an empty line. -/
theorem tilesLine_empty (scopes : List String) : TilesLine "" [⟨0, 0, scopes⟩] where
  ne_nil := List.cons_ne_nil _ _
  starts := rfl
  adjacent := .singleton _
  ends := rfl
  boundaries := by
    intro t ht
    obtain rfl := List.mem_singleton.1 ht
    exact ⟨isValid_byteLength_take "" 0, isValid_byteLength_take "" 0⟩
  nonempty := fun hne => absurd rfl hne
  empty := fun _ => ⟨scopes, rfl⟩

/-- Whatever the grammar and the state, the tokens of a line tile it exactly. -/
theorem Grammar.tokenize_tilesLine (hengine : engine.StaysInside) {line : String}
    {result : LineResult ρ} (hline : g.tokenize engine line state = .ok result) :
    TilesLine line result.tokens := by
  obtain ⟨s, hscan, _, htokens⟩ := tokenize_eq_ok hline
  have htiles := scanLine_tiles hengine hscan
  rw [List.size_toArray, List.length_append, List.length_singleton] at htiles
  rw [htokens]
  rcases Emitted.toTokens_tiles htiles s.stack.bodyScopes with ⟨hzero, htoTokens⟩ | hfull
  · obtain rfl : line = "" := String.toList_eq_nil_iff.1 (List.length_eq_zero_iff.1 hzero)
    rw [htoTokens]
    exact tilesLine_empty _
  · obtain ⟨hpos, tokens, htokens, htoTokens⟩ := hfull
    rw [htoTokens]
    exact htokens.tilesLine hpos

/-- The text of the small grammar goes on inside its region, with a character of two bytes. -/
theorem Grammar.sample_tokenize_tilesLine :
    RegexEngine.literal.StaysInside ∧
    (∃ result, Sample.grammar.tokenize .literal "é<>c" (.inside Sample.opened) = .ok result ∧
      TilesLine "é<>c" result.tokens) := by
  have hline : Sample.grammar.tokenize .literal "é<>c" (.inside Sample.opened) =
      .ok ⟨[⟨0, 2, ["s", "tag", "x", "body"]⟩, ⟨2, 3, ["s", "tag", "x", "cap", "lt"]⟩,
        ⟨3, 4, ["s", "tag", "x", "cap"]⟩, ⟨4, 5, ["s"]⟩], .inside (Stack.root 0 "s")⟩ := by
    rfl
  exact ⟨RegexEngine.literal_staysInside, _, hline,
    tokenize_tilesLine RegexEngine.literal_staysInside hline⟩

end ScopeCheck
