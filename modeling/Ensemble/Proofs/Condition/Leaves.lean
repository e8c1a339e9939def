import Ensemble.Proofs.Error.Causes
import Ensemble.Rules.Basic

/-!
# The leaves of conditions and rules

Binding checks every leaf, also the ones that an evaluation never reaches.  An evaluation fails only
as one of its leaves does, so what is known of the failures of bound operators is known of the
failures of bound rules.
-/

namespace Ensemble

variable {Op Binding : Type} [Operator Op Binding] {schema : Schema} {P : Cause → Prop}
  {binding : Binding}

/-! ## Conditions -/

namespace Condition

theorem checkSchema_eq_ok_iff {c : Condition Op} :
    c.checkSchema schema = .ok () ↔ ∀ op ∈ c.operators, Operator.checkSchema op schema = .ok () :=
  forM_eq_ok_iff

mutual

/-- A condition fails only as its leaves do. -/
theorem failsOnly_evaluate : (c : Condition Op) →
    (∀ op ∈ c.operators, FailsOnly P (Operator.evaluate op binding)) →
    FailsOnly P (c.evaluate binding)
  | .leaf op, h => by
    have hop : FailsOnly P (Operator.evaluate op binding) := h op (by simp [operators])
    rw [evaluate]
    exact hop.mapError fun e => e.cause_withOperator _
  | .all children, h => by
    rw [evaluate]
    refine (failsOnly_evaluateUntil false children (by simpa [operators] using h)).bind ?_
    rintro (decisive | reasons) _
    · exact failsOnly_pure _
    · exact failsOnly_pure _
  | .any children, h => by
    rw [evaluate]
    refine (failsOnly_evaluateUntil true children (by simpa [operators] using h)).bind ?_
    rintro (decisive | reasons) _
    · exact failsOnly_pure _
    · exact failsOnly_pure _
  | .not child, h => by
    rw [evaluate]
    refine (failsOnly_evaluate child (by simpa [operators] using h)).bind fun outcome _ => ?_
    exact failsOnly_pure _

theorem failsOnly_evaluateUntil (v : Bool) : (cs : List (Condition Op)) →
    (∀ op ∈ operatorsOf cs, FailsOnly P (Operator.evaluate op binding)) →
    FailsOnly P (evaluateUntil binding v cs)
  | [], _ => by
    rw [evaluateUntil]
    exact failsOnly_ok _
  | c :: cs, h => by
    have hc := failsOnly_evaluate c fun op hop => h op (by simp [operatorsOf, hop])
    have hcs := failsOnly_evaluateUntil v cs fun op hop => h op (by simp [operatorsOf, hop])
    rw [evaluateUntil]
    refine hc.bind fun outcome _ => ?_
    split
    · exact failsOnly_pure _
    · refine hcs.bind ?_
      rintro (decisive | reasons) _
      · exact failsOnly_pure _
      · exact failsOnly_pure _

end

end Condition

/-! ## Rules -/

theorem Rule.failsOnly_evaluate {rule : Rule Op}
    (h : ∀ op ∈ rule.condition.operators, FailsOnly P (Operator.evaluate op binding)) :
    FailsOnly P (rule.evaluate binding) := by
  have hcondition := rule.condition.failsOnly_evaluate h
  unfold Rule.evaluate
  cases heval : rule.condition.evaluate binding with
  | ok outcome => exact failsOnly_ok _
  | error e =>
    refine failsOnly_error ?_
    rw [Error.cause_withRule]
    exact hcondition e heval

namespace RuleSet

/-- The operators at the leaves of the rules. -/
def operators (set : RuleSet Op) : List Op := set.rules.flatMap (·.condition.operators)

theorem mem_operators {set : RuleSet Op} {op : Op} :
    op ∈ set.operators ↔ ∃ rule ∈ set.rules, op ∈ rule.condition.operators :=
  List.mem_flatMap

/-- Binding checks every leaf of every rule. -/
theorem bind_eq_ok_iff_operators {set : RuleSet Op} :
    set.bind schema = .ok () ↔ ∀ op ∈ set.operators, Operator.checkSchema op schema = .ok () := by
  unfold bind Rule.checkSchema
  simp only [forM_eq_ok_iff, mapError_eq_ok_iff, Condition.checkSchema_eq_ok_iff, mem_operators]
  constructor
  · rintro h op ⟨rule, hrule, hop⟩
    exact h rule hrule op hop
  · intro h rule hrule op hop
    exact h op ⟨rule, hrule, hop⟩

theorem failsOnly_evaluate {set : RuleSet Op}
    (h : ∀ op ∈ set.operators, FailsOnly P (Operator.evaluate op binding)) :
    FailsOnly P (set.evaluate binding) := by
  refine failsOnly_mapM fun rule hrule => Rule.failsOnly_evaluate fun op hop => ?_
  exact h op (mem_operators.2 ⟨rule, hrule, hop⟩)

theorem failsOnly_passesAll {rules : List (Rule Op)}
    (h : ∀ rule ∈ rules, FailsOnly P (rule.evaluate binding)) :
    FailsOnly P (passesAll binding rules) := by
  induction rules with
  | nil => exact failsOnly_ok true
  | cons rule rules ih =>
    obtain ⟨hrule, hrules⟩ := List.forall_mem_cons.1 h
    rw [passesAll]
    refine hrule.bind fun e _ => ?_
    split
    · exact ih hrules
    · exact failsOnly_pure false

theorem failsOnly_passes {set : RuleSet Op}
    (h : ∀ op ∈ set.operators, FailsOnly P (Operator.evaluate op binding)) :
    FailsOnly P (set.passes binding) := by
  refine failsOnly_passesAll fun rule hrule => Rule.failsOnly_evaluate fun op hop => ?_
  exact h op (mem_operators.2 ⟨rule, hrule, hop⟩)

end RuleSet

end Ensemble
