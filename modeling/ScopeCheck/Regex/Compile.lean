import ScopeCheck.Regex.Extent
import ScopeCheck.Regex.Parser

/-!
# Checking patterns

What is checked once a pattern has been read: that references and calls mean groups of the
pattern, that no group must enter itself before it has matched anything, and that look-behind
bodies can be matched backwards.  Repetitions learn which groups they have to watch.
`Regex.compile` reads and checks a pattern.
-/

namespace ScopeCheck.Regex

/-- Replaces names in calls by numbers. -/
def resolveCalls (groups : Groups) : Node → Except Error Node
  | .call (.number index) =>
    if index > groups.count then .error (.undefinedGroup (toString index).toList)
    else .ok (.call (.number index))
  | .call (.name name) =>
    match groupsNamed groups.names name with
    | [] => .error (.undefinedName name)
    | [index] => .ok (.call (.number index))
    | _ => .error (.ambiguousCall name)
  | .cat a b => return .cat (← resolveCalls groups a) (← resolveCalls groups b)
  | .alt a b => return .alt (← resolveCalls groups a) (← resolveCalls groups b)
  | .group index a => return .group index (← resolveCalls groups a)
  | .block a => return .block (← resolveCalls groups a)
  | .atomic a => return .atomic (← resolveCalls groups a)
  | .repeated low high greedy watched a =>
    return .repeated low high greedy watched (← resolveCalls groups a)
  | .ahead negative a => return .ahead negative (← resolveCalls groups a)
  | .behind negative shortest longest a =>
    return .behind negative shortest longest (← resolveCalls groups a)
  | .cond a b c =>
    return .cond (← resolveCalls groups a) (← resolveCalls groups b) (← resolveCalls groups c)
  | .without a b => return .without (← resolveCalls groups a) (← resolveCalls groups b)
  | .cut a => return .cut (← resolveCalls groups a)
  | n => .ok n

/-- What entering a group again does: whether it happens at all, whether it must happen, and
whether it happens before anything has been matched. -/
structure Reentry where
  occurs : Bool
  must : Bool
  endless : Bool
  deriving DecidableEq, Repr

/-- No group is entered again. -/
def Reentry.none : Reentry := ⟨false, false, false⟩

/-- The ways in which a node enters a group again; `head` says that nothing has been matched
before the node. -/
def reentryWith (least : Node → Nat) (enter : Bool → Nat → Reentry) :
    Bool → Node → Reentry
  | head, .cat a b =>
    let first := reentryWith least enter head a
    if first.endless then first
    else
      let second := reentryWith least enter (head && least a = 0) b
      ⟨first.occurs || second.occurs, first.must || second.must, second.endless⟩
  | head, .alt a b =>
    let first := reentryWith least enter head a
    let second := reentryWith least enter head b
    ⟨first.occurs || second.occurs, first.must && second.must,
      first.endless || second.endless⟩
  | head, .group index _ | head, .call (.number index) => enter head index
  | head, .block a | head, .atomic a | head, .ahead _ a | head, .behind _ _ _ a | head, .cut a =>
    reentryWith least enter head a
  | head, .repeated low high _ _ a =>
    if high = some 0 then .none
    else
      let r := reentryWith least enter head a
      { r with must := r.must && low ≠ 0 }
  | head, .cond test yes no =>
    let first := reentryWith least enter head test
    let second := reentryWith least enter (head && least test = 0) yes
    let third := reentryWith least enter head no
    ⟨first.occurs || second.occurs || third.occurs,
      (first.must || second.must) && third.must,
      first.endless || second.endless || third.endless⟩
  | head, .without a b =>
    let first := reentryWith least enter head a
    let second := reentryWith least enter head b
    ⟨first.occurs || second.occurs, second.must, first.endless || second.endless⟩
  | _, _ => .none

/-- The ways in which group `target` is entered again from group `index`. -/
def reentry (bodies : Array Node) (target : Nat) : Nat → List Nat → Bool → Nat → Reentry
  | 0, _, _, _ => .none
  | fuel + 1, entered, head, index =>
    if entered.contains index then .none
    else if index = target then ⟨true, true, head⟩
    else match bodies[index]? with
      | some body =>
        reentryWith (fun n => (n.extent bodies).least)
          (reentry bodies target fuel (index :: entered)) head body
      | none => .none

/-- Whether a group can enter itself without end. -/
def isEndless (bodies : Array Node) (index : Nat) : Bool :=
  match bodies[index]? with
  | some body =>
    let r := reentryWith (fun n => (n.extent bodies).least)
      (reentry bodies index (bodies.size + 1) []) true body
    r.must || r.endless
  | none => false

/-- Whether an assertion may stand in a look-behind. -/
def Assertion.looksBack : Assertion → Bool
  | .textEnd | .textEndOrNewline => false
  | _ => true

/-- Whether a node may stand in a look-behind. -/
def allowedBehind (negative : Bool) : Node → Bool
  | .cat a b | .alt a b | .without a b => allowedBehind negative a && allowedBehind negative b
  | .cond a b c => allowedBehind negative a && allowedBehind negative b && allowedBehind negative c
  | .group _ a => !negative && allowedBehind negative a
  | .block a | .atomic a | .repeated _ _ _ _ a => allowedBehind negative a
  | .assertion a => a.looksBack
  | .ahead .. | .cut _ | .uncut => false
  | .behind inner _ _ a => (negative || !inner) && allowedBehind negative a
  | .call _ => !negative
  | _ => true

/-- The farthest that a look-behind may look. -/
def behindLimit : Nat := 65535

/-- Gives each look-behind the lengths of its body, or refuses it; `used` are the groups that
are referred to. -/
def measureBehind (bodies : Array Node) (used : List Nat) : Node → Except Error Node
  | .behind negative _ _ a => do
    if !allowedBehind negative a then throw .lookBehind
    let body ← measureBehind bodies used a
    let extent := body.extent bodies
    if extent.least > behindLimit || extent.most.any (· > behindLimit) then throw .lookBehind
    if extent.least = 0 && extent.sure && !(body.groups.any fun g => used.contains g.1) then
      return if negative then .fail else .empty
    return .behind negative extent.least extent.most body
  | .cat a b => return .cat (← measureBehind bodies used a) (← measureBehind bodies used b)
  | .alt a b => return .alt (← measureBehind bodies used a) (← measureBehind bodies used b)
  | .group index a => return .group index (← measureBehind bodies used a)
  | .block a => return .block (← measureBehind bodies used a)
  | .atomic a => return .atomic (← measureBehind bodies used a)
  | .repeated low high greedy watched a =>
    return .repeated low high greedy watched (← measureBehind bodies used a)
  | .ahead negative a => return .ahead negative (← measureBehind bodies used a)
  | .cond a b c =>
    return .cond (← measureBehind bodies used a) (← measureBehind bodies used b)
      (← measureBehind bodies used c)
  | .without a b => return .without (← measureBehind bodies used a) (← measureBehind bodies used b)
  | .cut a => return .cut (← measureBehind bodies used a)
  | n => .ok n

/-- Whether a repetition with these bounds can go round without matching anything. -/
def emptyRound (bodies : Array Node) (high : Option Nat) (body : Node) : Bool :=
  high ≠ some 0 && (body.extent bodies).least = 0

/-- The groups in the body of a repetition that stand neither in a repetition inside it that can go
round without matching anything, nor in a look-around. -/
def ownGroups (bodies : Array Node) : Node → List Nat
  | .group index a => index :: ownGroups bodies a
  | .repeated _ high _ _ a => if emptyRound bodies high a then [] else ownGroups bodies a
  | .ahead false _ | .behind false .. => []
  | .block a | .atomic a | .ahead true a | .behind true _ _ a | .cut a => ownGroups bodies a
  | .cat a b | .alt a b | .without a b => ownGroups bodies a ++ ownGroups bodies b
  | .cond a b c => ownGroups bodies a ++ ownGroups bodies b ++ ownGroups bodies c
  | _ => []

/-- Lets each repetition watch the groups of its body that are referred to from outside of it;
`referred` are the references of the whole pattern. -/
def watchGroups (bodies : Array Node) (referred : List Nat) : Node → Node
  | .repeated low high greedy _ a =>
    let watched := if emptyRound bodies high a then
        (ownGroups bodies a).filter fun g => a.referred.count g < referred.count g
      else []
    .repeated low high greedy watched (watchGroups bodies referred a)
  | .cat a b => .cat (watchGroups bodies referred a) (watchGroups bodies referred b)
  | .alt a b => .alt (watchGroups bodies referred a) (watchGroups bodies referred b)
  | .group index a => .group index (watchGroups bodies referred a)
  | .block a => .block (watchGroups bodies referred a)
  | .atomic a => .atomic (watchGroups bodies referred a)
  | .ahead negative a => .ahead negative (watchGroups bodies referred a)
  | .behind negative shortest longest a =>
    .behind negative shortest longest (watchGroups bodies referred a)
  | .cond a b c =>
    .cond (watchGroups bodies referred a) (watchGroups bodies referred b)
      (watchGroups bodies referred c)
  | .without a b => .without (watchGroups bodies referred a) (watchGroups bodies referred b)
  | .cut a => .cut (watchGroups bodies referred a)
  | n => n

/-- The bodies of the groups by number, with the whole pattern as number 0. -/
def bodiesOf (root : Node) (count : Nat) : Array Node :=
  let groups := root.groups
  ((List.range (count + 1)).map fun index =>
    if index = 0 then root else ((groups.find? (·.1 = index)).map (·.2)).getD .fail).toArray

/-- The groups that calls in a pattern enter. -/
def calledGroups (root : Node) : List Nat :=
  root.calls.filterMap fun
    | .number index => some index
    | .name _ => none

/-- Reads and checks a pattern. -/
def compileChars (src : List Char) : Except Error Regex := do
  let (root, groups) ← readPattern src
  let referred := root.referred
  if referred.any (· > groups.count) then throw .backReference
  let root ← resolveCalls groups root
  let bodies := bodiesOf root groups.count
  let called := calledGroups root
  if called ≠ [] && (List.range (groups.count + 1)).any (isEndless bodies) then
    throw .endlessRecursion
  let root ← measureBehind bodies (referred ++ called) root
  let root := watchGroups bodies referred root
  return ⟨root, groups.count, groups.names, bodiesOf root groups.count⟩

/-- Reads and checks a pattern. -/
def compile (source : String) : Except Error Regex := compileChars source.toList

end ScopeCheck.Regex
