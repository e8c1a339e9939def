import Ensemble.Proofs.Except
import Ensemble.Rules.Basic

/-!
# Rules that pass

A rule set that passes, rule by rule and as far as the verdict needs, passes in a full evaluation
too, and conversely.  So the short way and the long way to a positive verdict agree.
-/

namespace Ensemble

variable {Op Binding : Type} [Operator Op Binding] {binding : Binding}

namespace Rule

variable {rule : Rule Op} {e : RuleEvaluation}

/-- A rule can be evaluated, and holds. -/
def Passes (rule : Rule Op) (binding : Binding) : Prop :=
  ∃ e, rule.evaluate binding = .ok e ∧ e.passed = true

theorem ruleName_of_evaluate (h : rule.evaluate binding = .ok e) : e.ruleName = rule.name := by
  unfold evaluate at h
  split at h
  · obtain rfl := Except.ok.inj h
    rfl
  · cases h

end Rule

namespace RuleSet

theorem passesAll_eq_true_iff {rules : List (Rule Op)} :
    passesAll binding rules = .ok true ↔ ∀ rule ∈ rules, rule.Passes binding := by
  induction rules with
  | nil => simp [passesAll]
  | cons rule rules ih =>
    rw [passesAll, bind_eq_ok_iff, List.forall_mem_cons, ← ih, Rule.Passes]
    constructor
    · rintro ⟨e, he, h⟩
      split at h
      · rename_i hpassed
        exact ⟨⟨e, he, hpassed⟩, h⟩
      · cases h
    · rintro ⟨⟨e, he, hpassed⟩, h⟩
      refine ⟨e, he, ?_⟩
      rw [if_pos hpassed, h]

theorem passes_eq_true_iff {set : RuleSet Op} :
    set.passes binding = .ok true ↔ ∀ rule ∈ set.rules, rule.Passes binding :=
  passesAll_eq_true_iff

/-- A full evaluation gives what each rule gives, in the order of the rules. -/
theorem evaluate_eq_ok_iff {set : RuleSet Op} {es : List RuleEvaluation} :
    set.evaluate binding = .ok es ↔
      List.Forall₂ (fun rule e => rule.evaluate binding = .ok e) set.rules es :=
  mapM_eq_ok_iff

theorem ruleNames_of_evaluate {set : RuleSet Op} {es : List RuleEvaluation}
    (h : set.evaluate binding = .ok es) : es.map (·.ruleName) = set.rules.map (·.name) :=
  map_of_mapM h fun _ _ he => Rule.ruleName_of_evaluate he

theorem passesAll_of_forall₂ {rules : List (Rule Op)} {es : List RuleEvaluation}
    (h : List.Forall₂ (fun rule e => rule.evaluate binding = .ok e) rules es) :
    passesAll binding rules = .ok (RuleEvaluation.allPassed es) := by
  induction h with
  | nil => rfl
  | @cons rule e rules es he _ ih =>
    rw [passesAll, he, ok_bind, ih, RuleEvaluation.allPassed, RuleEvaluation.allPassed,
      List.all_cons]
    cases e.passed <;> rfl

/-- Where a full evaluation succeeds, the short way has the same verdict. -/
theorem passes_of_evaluate {set : RuleSet Op} {es : List RuleEvaluation}
    (h : set.evaluate binding = .ok es) :
    set.passes binding = .ok (RuleEvaluation.allPassed es) :=
  passesAll_of_forall₂ (evaluate_eq_ok_iff.1 h)

/-- The short way and the long way to a positive verdict agree. -/
theorem passes_iff_evaluate {set : RuleSet Op} :
    set.passes binding = .ok true ↔
      ∃ es, set.evaluate binding = .ok es ∧ RuleEvaluation.allPassed es = true := by
  constructor
  · intro h
    obtain ⟨es, hes⟩ : ∃ es, set.evaluate binding = .ok es :=
      exists_mapM fun rule hrule => (passes_eq_true_iff.1 h rule hrule).imp fun e he => he.1
    exact ⟨es, hes, Except.ok.inj ((passes_of_evaluate hes).symm.trans h)⟩
  · rintro ⟨es, hes, hpassed⟩
    rw [passes_of_evaluate hes, hpassed]

end RuleSet

end Ensemble
