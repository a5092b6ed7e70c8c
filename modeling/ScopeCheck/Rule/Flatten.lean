import ScopeCheck.Rule.Basic

/-!
# Lists of patterns without containers

What can be matched inside a rule: its patterns, with every container replaced by its patterns, and
every rule kept where it stands first.
-/

namespace ScopeCheck.Rules

variable {ρ : Type}

/-- Expands the rules of `pending` from the left.  `unseen` are the rules that have not stood in
front yet; any other rule is dropped. -/
def expand (rules : Rules ρ) (unseen pending : List RuleIndex) : List RuleIndex :=
  match pending with
  | [] => []
  | id :: pending =>
    if h : id ∈ unseen then
      have := List.length_erase_of_mem h
      have := List.length_pos_of_mem h
      match (rules.rule id).contents? with
      | some contents => expand rules (unseen.erase id) (contents ++ pending)
      | none => id :: expand rules (unseen.erase id) pending
    else expand rules unseen pending
termination_by (unseen.length, pending.length)
decreasing_by
  all_goals simp_wf
  · exact Prod.Lex.left _ _ (by omega)
  · exact Prod.Lex.left _ _ (by omega)
  · exact Prod.Lex.right _ (by simp)

/-- The rules that are tried inside a rule. -/
def entryRules (rules : Rules ρ) (id : RuleIndex) : List RuleIndex :=
  expand rules (List.range rules.size) (rules.rule id).patterns

end ScopeCheck.Rules
