import ScopeCheck.Found
import ScopeCheck.Regex.Node
import ScopeCheck.Text.Grapheme

/-!
# Matching

A backtracking machine with explicit stacks.  A configuration holds the tasks that are still to
be done, the state reached so far, and the choices that are left.

* `step` does the first task, or gives up and takes the latest choice.
* `run` repeats it.
* `matchAt` tries one starting position and `search` the positions from the left.

Positions count characters of the text.
-/

namespace ScopeCheck.Regex

open ScopeCheck.Text

/-- What a search looks at: the text, and the position where it starts. -/
structure Subject where
  text : Array Char
  origin : Nat

/-- What matching has reached. -/
structure State where
  pos : Nat
  /-- Where the match is said to start. -/
  start : Nat
  /-- The text is cut off here. -/
  limit : Nat
  captures : Array (Option Span)
  deriving Inhabited

mutual

/-- What is still to be matched. -/
inductive Task
  | node (n : Node)
  /-- Closes a group that was opened at a position. -/
  | close (index start : Nat)
  /-- Decides about the next repetition. -/
  | again (low : Nat) (high : Option Nat) (greedy : Bool) (watched : List Nat) (body : Node)
      (count : Nat)
  /-- Ends a repetition that began at a position with these captures. -/
  | looped (low : Nat) (high : Option Nat) (greedy : Bool) (watched : List Nat) (body : Node)
      (count start : Nat) (captures : Array (Option Span))
  /-- Drops the choices made since. -/
  | commit (choices : List Choice)
  /-- Drops the choices made since and goes back to a position. -/
  | goBack (pos limit : Nat) (choices : List Choice)
  /-- Drops the choices made since and gives up. -/
  | refute (choices : List Choice)
  /-- Tries to start a look-behind body this many characters before a position. -/
  | startBehind (body : Node) (origin distance : Nat) (longest : Option Nat) (after : List Task)
  /-- Holds at a position only. -/
  | arrived (pos : Nat)
  /-- Looks for the first start of a node, from a position on. -/
  | cutAt (absent : Node) (from_ pos : Nat)
  /-- Cuts the text off. -/
  | setLimit (limit : Nat)

/-- A configuration to fall back to. -/
inductive Choice
  | mk (tasks : List Task) (state : State)

end

instance : Inhabited Task := ⟨.setLimit 0⟩

/-- A configuration of the machine. -/
structure Config where
  tasks : List Task
  state : State
  choices : List Choice

/-- What a step leads to. -/
inductive Outcome
  | next (c : Config)
  | matched (s : State)
  | failed

/-- Takes the latest choice. -/
def backtrack : List Choice → Outcome
  | [] => .failed
  | .mk tasks state :: choices => .next ⟨tasks, state, choices⟩

/-- Whether the text from `pos` to `limit` goes on with these code points. -/
def startsWith (text : Array Char) (limit : Nat) : Nat → List Nat → Bool
  | _, [] => true
  | pos, code :: rest =>
    pos < limit && (match text[pos]? with
      | some c => c.toNat == code
      | none => false) && startsWith text limit (pos + 1) rest

/-- The position behind a text with this folding, if the text has it at `pos`. -/
def afterFolded (text : Array Char) (limit : Nat) : Nat → Nat → List Nat → Option Nat
  | _, pos, [] => some pos
  | 0, _, _ => none
  | fuel + 1, pos, codes =>
    if pos < limit then
      match text[pos]? with
      | some c =>
        let folded := fold c.toNat
        if folded.isPrefixOf codes then
          afterFolded text limit fuel (pos + 1) (codes.drop folded.length)
        else none
      | none => none
    else none

/-- The code points of a part of the text. -/
def codesOf (text : Array Char) (s : Span) : List Nat :=
  ((text.extract s.start s.stop).toList).map Char.toNat

/-- The character before a position. -/
def before? (text : Array Char) (pos : Nat) : Option Char :=
  if pos = 0 then none else text[pos - 1]?

/-- Whether a character belongs to a set. -/
def belongs (members : CharSet) : Option Char → Bool
  | some c => members.contains c.toNat
  | none => false

/-- Whether a cluster ends at a position. -/
def clusterEnds (text : Array Char) (pos : Nat) : Bool :=
  match before? text pos, text[pos]? with
  | some left, some right =>
    let earlier := (codesOf text ⟨0, pos - 1⟩).reverse
    Grapheme.breaks earlier left.toNat right.toNat
  | _, _ => true

/-- Whether an assertion holds at a position. -/
def Assertion.holds (subject : Subject) (pos : Nat) : Assertion → Bool
  | .lineStart =>
    pos = 0 || (before? subject.text pos = some '\n' && pos ≠ subject.text.size)
  | .lineEnd => pos = subject.text.size || subject.text[pos]? = some '\n'
  | .textStart => pos = 0
  | .textEnd => pos = subject.text.size
  | .textEndOrNewline =>
    pos = subject.text.size ||
      (pos + 1 = subject.text.size && subject.text[pos]? = some '\n')
  | .searchStart => pos = subject.origin
  | .wordBoundary inside =>
    belongs inside (before? subject.text pos) != belongs inside subject.text[pos]?
  | .noWordBoundary inside =>
    belongs inside (before? subject.text pos) == belongs inside subject.text[pos]?
  | .clusterBoundary => clusterEnds subject.text pos
  | .noClusterBoundary => !clusterEnds subject.text pos

/-- The position behind the text of the first group that fits. -/
def afterReference (subject : Subject) (s : State) (folded : Bool) : List Nat → Option Nat
  | [] => none
  | index :: rest =>
    match (s.captures[index]?).join with
    | none => afterReference subject s folded rest
    | some span =>
      let codes := codesOf subject.text span
      let reached :=
        if folded then
          afterFolded subject.text s.limit (subject.text.size + 1) s.pos (foldAll codes)
        else if startsWith subject.text s.limit s.pos codes then some (s.pos + codes.length)
        else none
      match reached with
      | some pos => some pos
      | none => afterReference subject s folded rest

/-- Goes on behind one character if `accepts` holds of it. -/
def stepOne (subject : Subject) (s : State) (tasks : List Task) (choices : List Choice)
    (accepts : Char → Bool) : Outcome :=
  if s.pos < s.limit then
    match subject.text[s.pos]? with
    | some c =>
      if accepts c then .next ⟨tasks, { s with pos := s.pos + 1 }, choices⟩ else backtrack choices
    | none => backtrack choices
  else backtrack choices

/-- Goes on at a position, or gives up. -/
def stepTo (s : State) (tasks : List Task) (choices : List Choice) : Option Nat → Outcome
  | some pos => .next ⟨tasks, { s with pos }, choices⟩
  | none => backtrack choices

/-- Goes on where a condition holds. -/
def stepIf (s : State) (tasks : List Task) (choices : List Choice) (condition : Bool) : Outcome :=
  if condition then .next ⟨tasks, s, choices⟩ else backtrack choices

/-- Matches a node. -/
def stepNode (re : Regex) (subject : Subject) (n : Node) (tasks : List Task) (s : State)
    (choices : List Choice) : Outcome :=
  match n with
  | .empty => .next ⟨tasks, s, choices⟩
  | .fail => backtrack choices
  | .string codes =>
    stepTo s tasks choices
      (if startsWith subject.text s.limit s.pos codes then some (s.pos + codes.length) else none)
  | .foldedString codes =>
    stepTo s tasks choices
      (afterFolded subject.text s.limit (subject.text.size + 1) s.pos codes)
  | .one members => stepOne subject s tasks choices fun c => members.contains c.toNat
  | .any newline => stepOne subject s tasks choices fun c => newline || c != '\n'
  | .cat a b => .next ⟨.node a :: .node b :: tasks, s, choices⟩
  | .alt a b => .next ⟨.node a :: tasks, s, .mk (.node b :: tasks) s :: choices⟩
  | .group index body =>
    .next ⟨.node body :: .close index s.pos :: tasks,
      { s with captures := s.captures.setIfInBounds index none }, choices⟩
  | .block body => .next ⟨.node body :: tasks, s, choices⟩
  | .atomic body => .next ⟨.node body :: .commit choices :: tasks, s, choices⟩
  | .repeated low high greedy watched body =>
    .next ⟨.again low high greedy watched body 0 :: tasks, s, choices⟩
  | .assertion a => stepIf s tasks choices (a.holds subject s.pos)
  | .ahead false body => .next ⟨.node body :: .goBack s.pos s.limit choices :: tasks, s, choices⟩
  | .ahead true body =>
    .next ⟨[.node body, .refute choices], s, .mk tasks s :: choices⟩
  | .behind false shortest longest body =>
    .next ⟨[.startBehind body s.pos shortest longest
      (.goBack s.pos s.limit choices :: tasks)], s, choices⟩
  | .behind true shortest longest body =>
    .next ⟨[.startBehind body s.pos shortest longest [.refute choices]], s,
      .mk tasks s :: choices⟩
  | .backref groups folded => stepTo s tasks choices (afterReference subject s folded groups)
  | .matched groups =>
    stepIf s tasks choices (groups.any fun index => ((s.captures[index]?).join).isSome)
  | .cond test yes no =>
    .next ⟨.node test :: .commit choices :: .node yes :: tasks, s,
      .mk (.node no :: tasks) s :: choices⟩
  | .call (.number index) =>
    match re.bodies[index]? with
    | some body =>
      if index = 0 then .next ⟨.node body :: tasks, s, choices⟩
      else .next ⟨.node (.group index body) :: tasks, s, choices⟩
    | none => backtrack choices
  | .call (.name _) => backtrack choices
  | .keep => .next ⟨tasks, { s with start := s.pos }, choices⟩
  | .without absent body =>
    .next ⟨.cutAt absent s.pos s.pos :: .node body :: .setLimit s.limit :: tasks, s, choices⟩
  | .cut absent => .next ⟨.cutAt absent s.pos s.pos :: tasks, s, choices⟩
  | .uncut => .next ⟨tasks, { s with limit := subject.text.size }, choices⟩

/-- Whether one of the groups `watched` has changed. -/
def capturesMoved (watched : List Nat) (old new : Array (Option Span)) : Bool :=
  watched.any fun index => old[index]? != new[index]?

/-- Does the first task. -/
def stepTask (re : Regex) (subject : Subject) (task : Task) (tasks : List Task) (s : State)
    (choices : List Choice) : Outcome :=
  match task with
  | .node n => stepNode re subject n tasks s choices
  | .close index start =>
    .next ⟨tasks, { s with captures := s.captures.setIfInBounds index (some ⟨start, s.pos⟩) },
      choices⟩
  | .again low high greedy watched body count =>
    let round : List Task :=
      .node body :: .looped low high greedy watched body (count + 1) s.pos s.captures :: tasks
    if count < low then .next ⟨round, s, choices⟩
    else if high = some count then .next ⟨tasks, s, choices⟩
    else if greedy then .next ⟨round, s, .mk tasks s :: choices⟩
    else .next ⟨tasks, s, .mk round s :: choices⟩
  | .looped low high greedy watched body count start captures =>
    if s.pos = start && low < count && !capturesMoved watched captures s.captures then
      .next ⟨tasks, s, choices⟩
    else .next ⟨.again low high greedy watched body count :: tasks, s, choices⟩
  | .commit choices => .next ⟨tasks, s, choices⟩
  | .goBack pos limit choices => .next ⟨tasks, { s with pos, limit }, choices⟩
  | .refute choices => backtrack choices
  | .startBehind body origin distance longest after =>
    if distance ≤ origin && (longest.map fun most => decide (distance ≤ most)).getD true then
      .next ⟨.node body :: .arrived origin :: after,
        { s with pos := origin - distance, limit := origin },
        .mk (.startBehind body origin (distance + 1) longest after :: tasks) s :: choices⟩
    else backtrack choices
  | .arrived pos => stepIf s tasks choices (s.pos = pos)
  | .cutAt absent from_ pos =>
    let found : Task := .setLimit pos
    if pos < s.limit then
      .next ⟨[.node absent, .goBack from_ s.limit choices, found] ++ tasks, { s with pos },
        .mk (.cutAt absent from_ (pos + 1) :: tasks) s :: choices⟩
    else .next ⟨tasks, { s with pos := from_ }, choices⟩
  | .setLimit limit => .next ⟨tasks, { s with limit }, choices⟩

/-- One step of the machine. -/
def step (re : Regex) (subject : Subject) (c : Config) : Outcome :=
  match c.tasks with
  | [] => .matched c.state
  | task :: tasks => stepTask re subject task tasks c.state c.choices

/-- Runs the machine for at most `fuel` steps. -/
def run (re : Regex) (subject : Subject) : Nat → Config → Option State
  | 0, _ => none
  | fuel + 1, c =>
    match step re subject c with
    | .next c => run re subject fuel c
    | .matched s => some s
    | .failed => none

/-- How many steps are made from one starting position before it is given up. -/
def stepLimit : Nat := 20000000

/-- Tries to match from a position. -/
def matchAt (re : Regex) (subject : Subject) (pos : Nat) : Option Found :=
  let captures : Array (Option Span) := Array.replicate (re.groupCount + 1) none
  let state : State := ⟨pos, pos, subject.text.size, captures⟩
  (run re subject stepLimit ⟨[.node re.root], state, []⟩).map fun s =>
    ⟨⟨min s.start s.pos, s.pos⟩, s.captures.toList.drop 1⟩

/-- Tries `count` positions from the left. -/
def searchFrom (re : Regex) (subject : Subject) : Nat → Nat → Option Found
  | 0, _ => none
  | count + 1, pos =>
    match matchAt re subject pos with
    | some found => some found
    | none => searchFrom re subject count (pos + 1)

/-- The leftmost match that starts at `origin` or later. -/
def search (re : Regex) (text : Array Char) (origin : Nat) : Option Found :=
  searchFrom re ⟨text, origin⟩ (text.size + 1 - origin) origin

end ScopeCheck.Regex
