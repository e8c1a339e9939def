import Ensemble.Proofs.Condition.Footprint
import Ensemble.Proofs.Condition.Verdict

/-!
# Dual conditions

The dual of a condition exchanges `all` and `any` and negates the leaves.  A group and its dual stop
at the same child, so the dual fails with the error of the condition, and holds if and only if the
condition does not.  Where no leaf fails, a condition is the formula that it reads as.
-/

namespace Ensemble

namespace Condition

section

variable {Op : Type}

mutual

/-- The dual of a condition: its leaves are negated, and `all` and `any` are exchanged. -/
def dual : Condition Op → Condition Op
  | .leaf op => .not (.leaf op)
  | .all children => .any (dualAll children)
  | .any children => .all (dualAll children)
  | .not child => .not child.dual

/-- The duals of several conditions, in place. -/
def dualAll : List (Condition Op) → List (Condition Op)
  | [] => []
  | c :: cs => c.dual :: dualAll cs

end

mutual

/-- The truth of a condition as a formula, where the truth of its leaves is given. -/
def reading (truth : Op → Bool) : Condition Op → Bool
  | .leaf op => truth op
  | .all children => (readings truth children).all id
  | .any children => (readings truth children).any id
  | .not child => !child.reading truth

/-- The truths of several conditions, in place. -/
def readings (truth : Op → Bool) : List (Condition Op) → List Bool
  | [] => []
  | c :: cs => c.reading truth :: readings truth cs

end

end

variable {Op Binding : Type} [Operator Op Binding] {binding : Binding} {truth : Op → Bool}

/-! ## Duals -/

mutual

theorem flag_dual (binding : Binding) : (c : Condition Op) →
    flag (c.dual.evaluate binding) = (flag (c.evaluate binding)).map (!·)
  | .leaf op => flag_not binding (.leaf op)
  | .all children => by
    have hchildren : settled binding true (dualAll children) = settled binding false children :=
      settled_dualAll binding false children
    rw [dual, flag_any, flag_all, hchildren]
    cases settled binding false children <;> simp [Except.map]
  | .any children => by
    have hchildren : settled binding false (dualAll children) = settled binding true children :=
      settled_dualAll binding true children
    rw [dual, flag_any, flag_all, hchildren]
  | .not child => by
    rw [dual, flag_not, flag_not, flag_dual binding child]

/-- The duals are decided by the other verdict, at the same child. -/
theorem settled_dualAll (binding : Binding) (v : Bool) : (cs : List (Condition Op)) →
    settled binding (!v) (dualAll cs) = settled binding v cs
  | [] => by rw [dualAll, settled_nil, settled_nil]
  | c :: cs => by
    rw [dualAll, settled_cons, settled_cons, flag_dual binding c, settled_dualAll binding v cs]
    cases flag (c.evaluate binding) with
    | error e => rfl
    | ok passed => cases passed <;> cases v <;> rfl

end

/-! ## Formulas -/

mutual

theorem flag_eq_reading : (c : Condition Op) →
    (∀ op ∈ c.operators, flag (Operator.evaluate op binding) = .ok (truth op)) →
    flag (c.evaluate binding) = .ok (c.reading truth)
  | .leaf op, h => by
    obtain ⟨outcome, heval, hpassed⟩ := flag_eq_ok_iff.1 (h op (by simp [operators]))
    rw [evaluate, heval, reading, ← hpassed]
    rfl
  | .all children, h => by
    rw [flag_all, settled_eq_readings false children (by simpa [operators] using h), reading,
      List.all_eq_not_any_not]
    simp [Except.map]
  | .any children, h => by
    rw [flag_any, settled_eq_readings true children (by simpa [operators] using h), reading]
    simp only [beq_true]
    rfl
  | .not child, h => by
    rw [flag_not, flag_eq_reading child (by simpa [operators] using h), reading]
    rfl

/-- A group is decided if a child has the deciding truth. -/
theorem settled_eq_readings (v : Bool) : (cs : List (Condition Op)) →
    (∀ op ∈ operatorsOf cs, flag (Operator.evaluate op binding) = .ok (truth op)) →
    settled binding v cs = .ok ((readings truth cs).any (· == v))
  | [], _ => settled_nil binding v
  | c :: cs, h => by
    have hc := flag_eq_reading c fun op hop => h op (by simp [operatorsOf, hop])
    have hcs := settled_eq_readings v cs fun op hop => h op (by simp [operatorsOf, hop])
    rw [settled_cons, hc, ok_bind, hcs, readings, List.any_cons]
    split <;> simp [*]

end

/-- The dual of a condition fails with the error of the condition, and otherwise holds if and only
if the condition does not.  Where every leaf can be evaluated, so can the condition, and it holds if
and only if it is true as a formula over the truths of its leaves. -/
theorem evaluate_dual (c : Condition Op) (binding : Binding) :
    (c.dual.evaluate binding).map (·.passed) = (c.evaluate binding).map (!·.passed) ∧
    ∀ truth : Op → Bool,
      (∀ op ∈ c.operators, ∃ outcome, Operator.evaluate op binding = .ok outcome ∧
        outcome.passed = truth op) →
      ∃ outcome, c.evaluate binding = .ok outcome ∧ outcome.passed = c.reading truth := by
  refine ⟨?_, fun truth h => ?_⟩
  · have hdual := flag_dual binding c
    unfold flag at hdual
    rw [hdual]
    cases c.evaluate binding <;> rfl
  · exact flag_eq_ok_iff.1 (flag_eq_reading c fun op hop => flag_eq_ok_iff.2 (h op hop))

/-- Two swatches of navy under nested groups, one of them empty. -/
theorem evaluate_dual_swatches :
    ∃ pair : Pair, ∃ c : Condition PairOperator,
      pair = ⟨swatch "denim" "navy" "washed", swatch "serge" "navy" "raw"⟩ ∧
      c = .any [.leaf (.hasDifferent "shade"), .all [matching, .all []]] ∧
      (c.dual.evaluate pair).map (·.passed) = (c.evaluate pair).map (!·.passed) ∧
      ∃ outcome, c.evaluate pair = .ok outcome ∧ outcome.passed = true := by
  obtain ⟨hdual, hreading⟩ :=
    evaluate_dual (.any [.leaf (.hasDifferent "shade"), .all [matching, .all []]])
      (⟨swatch "denim" "navy" "washed", swatch "serge" "navy" "raw"⟩ : Pair)
  refine ⟨_, _, rfl, rfl, hdual, hreading (fun _ => false) fun op hop => ?_⟩
  have hop : op = .hasDifferent "shade" := by simpa [operators, operatorsOf, matching] using hop
  subst hop
  exact ⟨_, rfl, by decide +kernel⟩

end Condition

end Ensemble
