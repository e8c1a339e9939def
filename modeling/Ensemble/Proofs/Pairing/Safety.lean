import Ensemble.Pairing.Matcher
import Ensemble.Proofs.Condition.Leaves
import Ensemble.Proofs.Condition.Soundness
import Ensemble.Proofs.Rules

/-!
# Comparisons that cannot fail

The rules of a matcher can read its schema, so on two items of the schema every rule has a verdict.
What is left to go wrong in a comparison is that an item does not satisfy the schema.  Therefore the
short way to a verdict, which stops at the first rule that fails, misses no error of a later rule,
and agrees with the full comparison.
-/

namespace Ensemble

theorem Schema.failsOnly_validate (schema : Schema) (item : Item) :
    FailsOnly (·.stage ≠ .evaluation) (schema.validate item) := by
  intro e he
  obtain ⟨name, violation, hcause⟩ := Schema.exists_violation he
  simp [hcause, Cause.stage]

namespace Matcher

variable {matcher : Matcher} {readings : Nat} {a b : Item} {e : Error}

/-! ## Items of the schema -/

/-- On two items of the schema all rules can be evaluated. -/
theorem exists_evaluations (matcher : Matcher) (ha : matcher.schema.validate a = .ok ())
    (hb : matcher.schema.validate b = .ok ()) :
    ∃ es, matcher.rules.evaluate (⟨a, b⟩ : Pair) = .ok es := by
  refine failsOnly_false_iff.1 (RuleSet.failsOnly_evaluate fun op hop => ?_)
  have hread : op.checkSchema matcher.schema = .ok () :=
    RuleSet.bind_eq_ok_iff_operators.1 matcher.bound op hop
  exact failsOnly_of_exists (PairOperator.exists_outcome hread ha hb)

theorem compare_eq_ok_iff {r : PairResult} :
    matcher.compare readings a b = .ok r ↔
      ∃ es, matcher.rules.evaluate (⟨a, b⟩ : Pair) = .ok es ∧
        r = ⟨a.id, b.id, RuleEvaluation.allPassed es, es, matcher.clock.reading readings⟩ := by
  unfold compare
  cases matcher.rules.evaluate (⟨a, b⟩ : Pair) with
  | error e => simp
  | ok es => simp [eq_comm]

theorem passes_of_compare {r : PairResult} (h : matcher.compare readings a b = .ok r) :
    matcher.passes a b = .ok r.compatible := by
  obtain ⟨es, hes, rfl⟩ := compare_eq_ok_iff.1 h
  unfold passes
  rw [RuleSet.passes_of_evaluate hes]
  rfl

/-- Two items of the schema have a result, and its verdict is that of the short way. -/
theorem exists_result (matcher : Matcher) (readings : Nat)
    (ha : matcher.schema.validate a = .ok ()) (hb : matcher.schema.validate b = .ok ()) :
    ∃ r, matcher.compare readings a b = .ok r ∧ matcher.passes a b = .ok r.compatible := by
  obtain ⟨es, hes⟩ := matcher.exists_evaluations ha hb
  have hcompare : matcher.compare readings a b = .ok _ := compare_eq_ok_iff.2 ⟨es, hes, rfl⟩
  exact ⟨_, hcompare, passes_of_compare hcompare⟩

/-! ## Any two items -/

theorem validatePair_eq_ok_iff :
    matcher.validatePair a b = .ok () ↔
      matcher.schema.validate a = .ok () ∧ matcher.schema.validate b = .ok () := by
  unfold validatePair
  rw [bind_eq_ok_iff]
  exact ⟨fun ⟨_, ha, hb⟩ => ⟨ha, hb⟩, fun ⟨ha, hb⟩ => ⟨(), ha, hb⟩⟩

/-- The first item is blamed before the second. -/
theorem validatePair_eq_error_iff :
    matcher.validatePair a b = .error e ↔
      matcher.schema.validate a = .error e ∨
        matcher.schema.validate a = .ok () ∧ matcher.schema.validate b = .error e := by
  unfold validatePair
  rw [bind_eq_error_iff]
  exact or_congr_right ⟨fun ⟨_, ha, hb⟩ => ⟨ha, hb⟩, fun ⟨ha, hb⟩ => ⟨(), ha, hb⟩⟩

/-- A comparison fails only as the validation of its items does. -/
theorem evaluatePair_eq_error_iff :
    matcher.evaluatePair a b = .error e ↔ matcher.validatePair a b = .error e := by
  unfold evaluatePair
  rw [bind_eq_error_iff]
  refine or_iff_left ?_
  rintro ⟨⟨⟩, hvalid, hfail⟩
  obtain ⟨ha, hb⟩ := validatePair_eq_ok_iff.1 hvalid
  obtain ⟨r, hr, -⟩ := matcher.exists_result 0 ha hb
  rw [hr] at hfail
  cases hfail

theorem evaluatePair_eq_compare (ha : matcher.schema.validate a = .ok ())
    (hb : matcher.schema.validate b = .ok ()) :
    matcher.evaluatePair a b = matcher.compare 0 a b := by
  unfold evaluatePair
  rw [validatePair_eq_ok_iff.2 ⟨ha, hb⟩, ok_bind]

/-- The short way gives the verdict of the full comparison, or the same error. -/
theorem isCompatible_eq_map (matcher : Matcher) (a b : Item) :
    matcher.isCompatible a b = (matcher.evaluatePair a b).map (·.compatible) := by
  unfold isCompatible evaluatePair
  cases hvalid : matcher.validatePair a b with
  | error e => rfl
  | ok u =>
    obtain ⟨ha, hb⟩ := validatePair_eq_ok_iff.1 hvalid
    obtain ⟨r, hr, hpass⟩ := matcher.exists_result 0 ha hb
    rw [ok_bind, ok_bind, hr, hpass]
    rfl

/-! ## Errors of operators -/

theorem failsOnly_validatePair (matcher : Matcher) (a b : Item) :
    FailsOnly (·.stage ≠ .evaluation) (matcher.validatePair a b) :=
  (matcher.schema.failsOnly_validate a).bind fun _ _ => matcher.schema.failsOnly_validate b

theorem failsOnly_evaluatePair (matcher : Matcher) (a b : Item) :
    FailsOnly (·.stage ≠ .evaluation) (matcher.evaluatePair a b) := by
  refine (matcher.failsOnly_validatePair a b).bind fun _ hvalid => ?_
  obtain ⟨ha, hb⟩ := validatePair_eq_ok_iff.1 hvalid
  obtain ⟨r, hr, -⟩ := matcher.exists_result 0 ha hb
  exact failsOnly_of_exists ⟨r, hr⟩

theorem failsOnly_isCompatible (matcher : Matcher) (a b : Item) :
    FailsOnly (·.stage ≠ .evaluation) (matcher.isCompatible a b) := by
  refine (matcher.failsOnly_validatePair a b).bind fun _ hvalid => ?_
  obtain ⟨ha, hb⟩ := validatePair_eq_ok_iff.1 hvalid
  obtain ⟨r, -, hpass⟩ := matcher.exists_result 0 ha hb
  exact failsOnly_of_exists ⟨r.compatible, hpass⟩

/-! ## The two ways -/

/-- The short way to a verdict and the full comparison agree, also in their errors, and the full
comparison has one evaluation for each rule, in the order of the rules. -/
theorem isCompatible_agrees (matcher : Matcher) (a b : Item) :
    (∀ v, matcher.isCompatible a b = .ok v ↔
      ∃ r, matcher.evaluatePair a b = .ok r ∧ r.compatible = v) ∧
    (∀ e, matcher.isCompatible a b = .error e ↔ matcher.evaluatePair a b = .error e) ∧
    ∀ r, matcher.evaluatePair a b = .ok r →
      List.Forall₂ (fun rule e => rule.evaluate (⟨a, b⟩ : Pair) = .ok e) matcher.rules.rules
          r.evaluations ∧
        r.evaluations.map (·.ruleName) = matcher.rules.rules.map (·.name) := by
  rw [isCompatible_eq_map]
  refine ⟨fun v => ?_, fun e => ?_, fun r hr => ?_⟩
  · cases matcher.evaluatePair a b <;> simp [Except.map]
  · cases matcher.evaluatePair a b <;> simp [Except.map]
  · obtain ⟨_, -, hcompare⟩ := bind_eq_ok_iff.1 hr
    obtain ⟨es, hes, rfl⟩ := compare_eq_ok_iff.1 hcompare
    exact ⟨RuleSet.evaluate_eq_ok_iff.1 hes, RuleSet.ruleNames_of_evaluate hes⟩

/-- A fabric of one colour. -/
def fabric (id colour : String) : Item where
  id := ⟨id⟩
  name := id
  attributes := .ofList [("colour", .string colour)]

/-- Fabrics of different colours and the same weave go together. -/
def patchwork : Matcher where
  rules :=
    ⟨"patchwork",
      [⟨"colours", none, .leaf (.hasDifferent "colour")⟩,
        ⟨"weave", none, .leaf (.equals "weave")⟩],
      by decide⟩
  schema := ⟨"fabrics", "1", [⟨"colour", .string, true⟩, ⟨"weave", .string, false⟩], .reject,
    by decide⟩
  clock := Clock.source ⟨0⟩
  bound := by decide +kernel

/-- The first rule fails on two fabrics of one colour, and the second is evaluated all the same. -/
theorem isCompatible_agrees_patchwork :
    patchwork.isCompatible (fabric "denim" "navy") (fabric "serge" "navy") = .ok false ∧
    ∃ r, patchwork.evaluatePair (fabric "denim" "navy") (fabric "serge" "navy") = .ok r ∧
      r.compatible = false ∧ r.evaluations.map (·.ruleName) = ["colours", "weave"] := by
  obtain ⟨hverdict, -, hrules⟩ :=
    isCompatible_agrees patchwork (fabric "denim" "navy") (fabric "serge" "navy")
  have hshort : patchwork.isCompatible (fabric "denim" "navy") (fabric "serge" "navy")
      = .ok false := by decide +kernel
  obtain ⟨r, hr, hcompatible⟩ := (hverdict false).1 hshort
  exact ⟨hshort, r, hr, hcompatible, (hrules r hr).2⟩

end Matcher

end Ensemble
