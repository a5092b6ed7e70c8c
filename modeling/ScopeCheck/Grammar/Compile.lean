import ScopeCheck.Grammar.Part
import ScopeCheck.Rule.Flatten

/-!
# Compiling grammars

Starting from the base grammar, every part that can be reached is visited once, in depth and from
the left; patterns are checked on the way, so that the first refusal in this order is the one that
is reported.  The parts then become rules, numbered in the order of their visits.
-/

namespace ScopeCheck

variable {ρ : Type}

/-- Visits and checks from the left.  `unseen` are the keys of parts that have not been visited.
Those of the patterns of a capture are always among them: a visit to the entry leads there once. -/
def visitParts (engine : RegexEngine ρ) (lib : Library) (unseen : List Key)
    (tasks : List Part.Task) : Except PatternError (List Part) :=
  match tasks with
  | [] => .ok []
  | .check source :: tasks =>
    match Pattern.read engine source with
    | .ok _ => visitParts engine lib unseen tasks
    | .error e => .error e
  | .visit p :: tasks =>
    if h : p.key ∈ unseen then
      have := List.length_erase_of_mem h
      have := List.length_pos_of_mem h
      (visitParts engine lib (unseen.erase p.key) (p.tasks lib ++ tasks)).map (p :: ·)
    else visitParts engine lib unseen tasks
termination_by (unseen.length, tasks.length)
decreasing_by
  all_goals simp_wf
  · exact Prod.Lex.right _ (by simp)
  · exact Prod.Lex.left _ _ (by omega)
  · exact Prod.Lex.right _ (by simp)

/-- The numbers of the rules that parts become. -/
abbrev Numbering := Key → Option RuleIndex

/-- Puts a capture rule in its place, over an earlier one of the same group.  Groups without a rule
take no room, so that every number may be used.  A table with a place for each number up to the
largest one would not fit into memory for the largest numbers. -/
def GroupRules.insert (number : Nat) (rule : GroupRule) : GroupRules → GroupRules
  | [] => [(number, rule)]
  | (n, r) :: rest =>
    if number < n then (number, rule) :: (n, r) :: rest
    else if n = number then (number, rule) :: rest
    else (n, r) :: GroupRules.insert number rule rest

/-- The rules for the groups of one kind of captures of an entry. -/
def Part.groupRules (numbers : Numbering) (path : List Step) (e : Entry) (around : Surroundings)
    (which : CaptureMap) : GroupRules :=
  (Part.numberedCaptures path e which).foldl
    (fun rules (number, path, capture) =>
      rules.insert number
        ⟨capture.name.map Template.mk, capture.contentName.map Template.mk,
          capture.patterns.bind fun _ => numbers (.contents which ⟨around.scope, path⟩)⟩) []

/-- The rule that a part becomes. -/
def Part.rule (engine : RegexEngine ρ) (lib : Library) (numbers : Numbering) (p : Part) :
    Except PatternError (Rule ρ) := do
  let patterns := (p.patterns lib).filterMap fun q => numbers q.key
  match p with
  | root .. | contents .. => return ⟨none, none, .container patterns⟩
  | entry path e around =>
    let captures := Part.groupRules numbers path e around
    let form ← match e.shape with
      | .single source =>
        pure (.single (← Pattern.read engine source) (captures .whole))
      | .region first last =>
        pure (.region (← Pattern.read engine first) (captures .first)
          (← Pattern.read engine last) (captures .last) e.triesEndLast patterns)
      | .during first condition =>
        pure (.during (← Pattern.read engine first) (captures .first)
          (← Pattern.read engine condition) (captures .condition) patterns)
      | .container => pure (.container patterns)
    return ⟨e.name.map Template.mk, e.contentName.map Template.mk, form⟩

/-- A compiled grammar. -/
structure Grammar (ρ : Type) where
  scopeName : String
  rules : Rules ρ
  root : RuleIndex
  /-- For every rule, the rules that are tried inside it. -/
  entries : Array (List RuleIndex)
  deriving Inhabited

namespace Grammar

/-- The grammar of these rules. -/
def ofRules (scopeName : String) (rules : Rules ρ) (root : RuleIndex) : Grammar ρ :=
  ⟨scopeName, rules, root, (Array.range rules.size).map rules.entryRules⟩

/-- A rule by its number. -/
def rule (g : Grammar ρ) (id : RuleIndex) : Rule ρ := g.rules.rule id

/-- The rules that are tried inside a rule. -/
def entriesOf (g : Grammar ρ) (id : RuleIndex) : List RuleIndex := (g.entries[id]?).getD []

/-- Compiles the base grammar of a library; `none` when the library lacks it. -/
def compile (engine : RegexEngine ρ) (lib : Library) : Except PatternError (Option (Grammar ρ)) :=
  match lib.root lib.base with
  | none => .ok none
  | some p => do
    let parts ← visitParts engine lib lib.keys [.visit p]
    let keys := parts.map Part.key
    let numbers : Numbering := fun k => keys.findIdx? (· == k)
    let rules ← parts.mapM (Part.rule engine lib numbers)
    return some (ofRules lib.base rules.toArray ((numbers p.key).getD 0))

end Grammar

end ScopeCheck
