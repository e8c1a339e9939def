import Ensemble.Condition.Basic
import Ensemble.Condition.PairOperator
import Ensemble.Condition.SetOperator
import Ensemble.Rules.Evaluation

/-!
# Rules and rule sets

A rule is a named condition.  A rule set holds rules of one family under distinct names, in the
order in which they were added.  It can be evaluated in full, or only as far as its verdict needs:
`passes` stops at the first rule that fails.
-/

namespace Ensemble

/-- A named condition. -/
structure Rule (Op : Type) where
  name : String
  description : Option String
  condition : Condition Op

namespace Rule

variable {Op Binding : Type} [Operator Op Binding]

/-- Evaluates a rule; an error names it. -/
def evaluate (rule : Rule Op) (binding : Binding) : Except Error RuleEvaluation :=
  match rule.condition.evaluate binding with
  | .ok outcome => .ok ⟨rule.name, outcome.passed, outcome.reason⟩
  | .error e => .error (e.withRule rule.name)

/-- That the operators of a rule can read the schema; an error names the rule. -/
def checkSchema (rule : Rule Op) (schema : Schema) : Except Error Unit :=
  (rule.condition.checkSchema schema).mapError (·.withRule rule.name)

end Rule

/-- Rules of one family under distinct names. -/
structure RuleSet (Op : Type) where
  name : String
  /-- In the order in which they were added. -/
  rules : List (Rule Op)
  /-- No two rules share a name. -/
  distinct : (rules.map (·.name)).Nodup

/-- Rules about two items. -/
abbrev PairRules := RuleSet PairOperator

namespace RuleSet

variable {Op : Type}

/-- The rule set without rules. -/
def empty (name : String) : RuleSet Op := ⟨name, [], List.nodup_nil⟩

/-- Whether a rule has a name. -/
def hasRule (set : RuleSet Op) (name : String) : Bool := set.rules.any (·.name == name)

theorem hasRule_iff {set : RuleSet Op} {name : String} :
    set.hasRule name = true ↔ name ∈ set.rules.map (·.name) := by
  simp [hasRule]

/-- A copy with one more rule, whose name has to be new. -/
def add (set : RuleSet Op) (rule : Rule Op) : Except Error (RuleSet Op) :=
  if h : set.hasRule rule.name then .error (Cause.duplicateRule rule.name)
  else .ok {
    name := set.name
    rules := set.rules ++ [rule]
    distinct := by
      rw [hasRule_iff] at h
      rw [List.map_append]
      refine List.nodup_append.2 ⟨set.distinct, by simp, fun a ha b hb => ?_⟩
      obtain rfl := List.mem_singleton.1 hb
      exact fun (e : a = rule.name) => h (e ▸ ha) }

variable {Binding : Type} [Operator Op Binding]

/-- That every rule can read the schema. -/
def bind (set : RuleSet Op) (schema : Schema) : Except Error Unit :=
  set.rules.forM (·.checkSchema schema)

/-- The evaluations of all rules. -/
def evaluate (set : RuleSet Op) (binding : Binding) : Except Error (List RuleEvaluation) :=
  set.rules.mapM (·.evaluate binding)

/-- Whether rules pass, up to the first one that does not. -/
def passesAll (binding : Binding) : List (Rule Op) → Except Error Bool
  | [] => .ok true
  | rule :: rules => do
    let e ← rule.evaluate binding
    if e.passed then passesAll binding rules else return false

/-- Whether every rule passes. -/
def passes (set : RuleSet Op) (binding : Binding) : Except Error Bool :=
  passesAll binding set.rules

end RuleSet

/-! ## Sizes -/

/-- That a least size is not above a greatest one. -/
def checkSizes (min? max? : Option Nat) : Except Error Unit :=
  match min?, max? with
  | some min, some max =>
    if min > max then .error (Cause.invalidClusterBounds min max) else .ok ()
  | _, _ => .ok ()

/-- Rules about sets of items, with the sizes that the sets may have. -/
structure ClusterRules extends RuleSet SetOperator where
  minSize : Option Nat
  maxSize : Option Nat

namespace ClusterRules

/-- No rules and no limits. -/
def empty (name : String) : ClusterRules := ⟨.empty name, none, none⟩

/-- A copy with one more rule, whose name has to be new. -/
def add (rules : ClusterRules) (rule : Rule SetOperator) : Except Error ClusterRules :=
  (rules.toRuleSet.add rule).map fun set => { rules with toRuleSet := set }

/-- That the least size is not above the greatest one. -/
def checkBounds (rules : ClusterRules) : Except Error Unit :=
  checkSizes rules.minSize rules.maxSize

/-- That the sizes are in order and every rule can read the schema. -/
def bind (rules : ClusterRules) (schema : Schema) : Except Error Unit := do
  rules.checkBounds
  rules.toRuleSet.bind schema

end ClusterRules

end Ensemble
