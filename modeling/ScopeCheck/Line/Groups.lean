import ScopeCheck.Grammar.Compile
import ScopeCheck.Line.Stack
import ScopeCheck.Line.Token

/-!
# Scopes of captures

What a match gives to the texts of its groups.  A group inside another one gets its scopes on top
of those of the outer group; a group with patterns of its own is scanned with them.
-/

namespace ScopeCheck

/-- Why a line cannot be tokenized. -/
inductive ScanError
  | pattern (error : PatternError)
  /-- Scans stand too deep inside each other.  This is an error value for what has no result: scans
  that go on like this use up the stack of a machine, which ends the whole program. -/
  | endless
  /-- A scan made too many steps. -/
  | stalled
  deriving Inhabited, Repr

/-- Where a scan stands in its line. -/
structure ScanPoint where
  pos : Nat
  /-- Where the last rule was entered, if patterns may ask for it. -/
  anchor : Option Nat
  /-- Whether this is the start of the first line. -/
  atTextStart : Bool
  deriving DecidableEq, Inhabited, Repr

/-- A scan in progress. -/
structure Scan (ρ : Type) where
  point : ScanPoint
  stack : Stack ρ
  emitted : Emitted

/-- Runs a scan over a text to its end. -/
abbrev Scanner (ρ : Type) := Array Char → Scan ρ → Except ScanError (Scan ρ)

/-- Groups that have been entered and not yet left, the innermost first, with their scopes and
ends. -/
abbrev OpenGroups := List (List String × Nat)

/-- The scopes inside the open groups; `base` are those outside. -/
def OpenGroups.scopes (base : List String) : OpenGroups → List String
  | [] => base
  | (scopes, _) :: _ => scopes

variable {ρ : Type}

/-- Leaves the groups that end at a position or before. -/
def closeGroups (start : Nat) : OpenGroups → Emitted → OpenGroups × Emitted
  | [], out => ([], out)
  | (scopes, stop) :: outer, out =>
    if stop ≤ start then closeGroups start outer (out.upTo scopes stop)
    else ((scopes, stop) :: outer, out)

/-- Leaves all groups. -/
def closeAllGroups (groups : OpenGroups) (out : Emitted) : Emitted :=
  groups.foldl (fun out group => out.upTo group.1 group.2) out

/-- The scan of the text of a group with the patterns of a container. -/
def innerScan (container : RuleIndex) (base : List String) (rule : GroupRule) (text : Array Char)
    (found : Found) (atTextStart : Bool) (start : Nat) (out : Emitted) : Scan ρ :=
  let name (t : Option Template) : Option (List Char) := t.map fun t => t.fill text found
  let matchScopes := withName base (name rule.name)
  let bodyScopes := withName matchScopes (name rule.contentName)
  ⟨⟨start, none, atTextStart && start = 0⟩,
    ⟨⟨container, some start, none, false, matchScopes, bodyScopes, none⟩, []⟩, out⟩

/-- Gives the texts of groups their scopes, from the group with the least number on. -/
def captureScopes (scanner : Scanner ρ) (text : Array Char) (atTextStart : Bool)
    (base : List String) (found : Found) :
    GroupRules → OpenGroups → Emitted → Except ScanError Emitted
  | [], groups, out => .ok (closeAllGroups groups out)
  | (number, rule) :: rest, groups, out =>
    match found.span? number with
    | none => captureScopes scanner text atTextStart base found rest groups out
    | some span =>
      if span.start = span.stop then
        captureScopes scanner text atTextStart base found rest groups out
      else if span.start > found.whole.stop then .ok (closeAllGroups groups out)
      else
        let (groups, out) := closeGroups span.start groups out
        let enclosing := groups.scopes base
        let out := out.upTo enclosing span.start
        match rule.inner with
        | some container =>
          match scanner (text.extract 0 span.stop)
              (innerScan container base rule text found atTextStart span.start out) with
          | .error e => .error e
          | .ok s => captureScopes scanner text atTextStart base found rest groups s.emitted
        | none =>
          let groups := match rule.name with
            | some name =>
              (withName enclosing (some (name.fill text found)), span.stop) :: groups
            | none => groups
          captureScopes scanner text atTextStart base found rest groups out

end ScopeCheck
