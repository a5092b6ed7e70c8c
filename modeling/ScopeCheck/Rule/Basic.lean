import ScopeCheck.Pattern.Basic
import ScopeCheck.Rule.Template

/-!
# Compiled rules

A rule refers to other rules by number.  Rules are of four kinds: a single match, a region from a
begin to an end, a region that goes on while lines match, and a container that only stands for
its patterns.
-/

namespace ScopeCheck

/-- The number of a rule. -/
abbrev RuleIndex := Nat

/-- What becomes of the text of a group. -/
structure GroupRule where
  name : Option Template
  contentName : Option Template
  /-- The container whose patterns are matched inside the text. -/
  inner : Option RuleIndex
  deriving DecidableEq, Inhabited, Repr

/-- Capture rules with the numbers of their groups, in ascending order. -/
abbrev GroupRules := List (Nat × GroupRule)

/-- What a rule matches. -/
inductive RuleForm (ρ : Type)
  | single (pattern : Pattern ρ) (captures : GroupRules)
  | region (first : Pattern ρ) (firstCaptures : GroupRules) (last : Pattern ρ)
      (lastCaptures : GroupRules) (lastIsTriedLast : Bool) (patterns : List RuleIndex)
  | during (first : Pattern ρ) (firstCaptures : GroupRules) (condition : Pattern ρ)
      (conditionCaptures : GroupRules) (patterns : List RuleIndex)
  | container (patterns : List RuleIndex)

instance {ρ : Type} : Inhabited (RuleForm ρ) := ⟨.container []⟩

/-- A compiled rule. -/
structure Rule (ρ : Type) where
  name : Option Template
  contentName : Option Template
  form : RuleForm ρ
  deriving Inhabited

namespace Rule

variable {ρ : Type}

/-- A rule without patterns. -/
def blank : Rule ρ := ⟨none, none, .container []⟩

/-- The pattern that starts a rule where it stands in a list of patterns. -/
def entryPattern? (r : Rule ρ) : Option (Pattern ρ) :=
  match r.form with
  | .single pattern _ => some pattern
  | .region first .. => some first
  | .during first .. => some first
  | .container _ => none

/-- The rules that are tried inside a rule. -/
def patterns (r : Rule ρ) : List RuleIndex :=
  match r.form with
  | .single .. => []
  | .region _ _ _ _ _ patterns => patterns
  | .during _ _ _ _ patterns => patterns
  | .container patterns => patterns

/-- The patterns of a rule that only stands for them. -/
def contents? (r : Rule ρ) : Option (List RuleIndex) :=
  match r.form with
  | .container patterns => some patterns
  | _ => none

end Rule

/-- The rules of a grammar and of every grammar that it embeds. -/
abbrev Rules (ρ : Type) := Array (Rule ρ)

/-- A rule by its number. -/
def Rules.rule {ρ : Type} (rules : Rules ρ) (id : RuleIndex) : Rule ρ :=
  (rules[id]?).getD Rule.blank

end ScopeCheck
