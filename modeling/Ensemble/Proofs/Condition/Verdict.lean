import Ensemble.Proofs.Except
import Ensemble.Rules.Basic

/-!
# Verdicts

The flag of an evaluation is what is left of it without the reasons: whether it holds, or its error.
Its verdict is what is left without the error too: whether it holds, or that it fails.  The verdict
of a condition is made from the verdicts of its leaves, so two bindings on which all leaves have the
same verdict give the same verdict for the condition, and likewise for rules and rule sets.
-/

namespace Ensemble

/-- Whether an outcome holds; an error stays as it is. -/
def flag (outcome : Except Error Outcome) : Except Error Bool := outcome.map (·.passed)

@[simp] theorem flag_ok (outcome : Outcome) : flag (.ok outcome) = .ok outcome.passed := rfl

theorem flag_eq_ok_iff {outcome : Except Error Outcome} {b : Bool} :
    flag outcome = .ok b ↔ ∃ o, outcome = .ok o ∧ o.passed = b := map_eq_ok_iff

/-- Whether an outcome holds; none for an error. -/
def verdict (outcome : Except Error Outcome) : Option Bool := outcome.toOption.map (·.passed)

@[simp] theorem verdict_ok (outcome : Outcome) : verdict (.ok outcome) = some outcome.passed := rfl

@[simp] theorem verdict_error (e : Error) : verdict (.error e) = none := rfl

@[simp] theorem verdict_mapError (x : Except Error Outcome) (f : Error → Error) :
    verdict (x.mapError f) = verdict x := by
  cases x <;> rfl

theorem verdict_eq (outcome : Except Error Outcome) : verdict outcome = (flag outcome).toOption := by
  cases outcome <;> rfl

/-! ## Conditions -/

namespace Condition

variable {Op Binding : Type} [Operator Op Binding]

/-- Whether a child decides a group, or the error of the evaluation. -/
def settled (binding : Binding) (v : Bool) (children : List (Condition Op)) : Except Error Bool :=
  (evaluateUntil binding v children).map Sum.isLeft

/-- Whether a child decides a group; none for an error. -/
def decided (binding : Binding) (v : Bool) (children : List (Condition Op)) : Option Bool :=
  (evaluateUntil binding v children).toOption.map Sum.isLeft

theorem decided_eq (binding : Binding) (v : Bool) (children : List (Condition Op)) :
    decided binding v children = (settled binding v children).toOption := by
  unfold decided settled
  cases evaluateUntil binding v children <;> rfl

theorem passed_of_evaluateUntil {binding : Binding} {v : Bool} {outcome : Outcome} :
    ∀ {children : List (Condition Op)},
      evaluateUntil binding v children = .ok (.inl outcome) → outcome.passed = v
  | [], h => by simp [evaluateUntil] at h
  | c :: cs, h => by
    rw [evaluateUntil] at h
    obtain ⟨first, -, h⟩ := bind_eq_ok_iff.1 h
    split at h
    · rename_i hv
      obtain rfl := Sum.inl.inj (Except.ok.inj h)
      exact hv
    · obtain ⟨rest, hrest, h⟩ := bind_eq_ok_iff.1 h
      cases rest with
      | inl decisive =>
        obtain rfl := Sum.inl.inj (Except.ok.inj h)
        exact passed_of_evaluateUntil hrest
      | inr reasons => cases h

/-! ### Flags -/

theorem settled_nil (binding : Binding) (v : Bool) :
    settled binding v ([] : List (Condition Op)) = .ok false := by
  rw [settled, evaluateUntil]
  rfl

theorem settled_cons (binding : Binding) (v : Bool) (c : Condition Op) (cs : List (Condition Op)) :
    settled binding v (c :: cs) = flag (c.evaluate binding) >>= fun passed =>
      if passed = v then .ok true else settled binding v cs := by
  unfold settled
  rw [evaluateUntil]
  cases c.evaluate binding with
  | error e => rfl
  | ok outcome =>
    simp only [flag_ok, ok_bind]
    split
    · rfl
    · cases evaluateUntil binding v cs with
      | error e => rfl
      | ok rest => cases rest <;> rfl

theorem flag_all (binding : Binding) (children : List (Condition Op)) :
    flag ((all children).evaluate binding) = (settled binding false children).map (!·) := by
  unfold settled
  rw [evaluate]
  cases h : evaluateUntil binding false children with
  | error e => rfl
  | ok r =>
    cases r with
    | inl decisive => exact congrArg Except.ok (passed_of_evaluateUntil h)
    | inr reasons => rfl

theorem flag_any (binding : Binding) (children : List (Condition Op)) :
    flag ((any children).evaluate binding) = settled binding true children := by
  unfold settled
  rw [evaluate]
  cases h : evaluateUntil binding true children with
  | error e => rfl
  | ok r =>
    cases r with
    | inl decisive => exact congrArg Except.ok (passed_of_evaluateUntil h)
    | inr reasons => rfl

theorem flag_not (binding : Binding) (child : Condition Op) :
    flag ((not child).evaluate binding) = (flag (child.evaluate binding)).map (!·) := by
  rw [evaluate]
  cases child.evaluate binding <;> rfl

/-! ### Verdicts -/

theorem decided_cons (binding : Binding) (v : Bool) (c : Condition Op) (cs : List (Condition Op)) :
    decided binding v (c :: cs) =
      (verdict (c.evaluate binding)).bind fun b =>
        if b = v then some true else decided binding v cs := by
  rw [decided_eq, decided_eq, settled_cons, toOption_bind, verdict_eq]
  refine congrArg (Option.bind _) (funext fun b => ?_)
  split <;> rfl

theorem verdict_leaf (binding : Binding) (op : Op) :
    verdict ((leaf op).evaluate binding) = verdict (Operator.evaluate op binding) := by
  rw [evaluate, verdict_mapError]

theorem verdict_all (binding : Binding) (children : List (Condition Op)) :
    verdict ((all children).evaluate binding) = (decided binding false children).map (!·) := by
  rw [verdict_eq, flag_all, decided_eq, toOption_map]

theorem verdict_any (binding : Binding) (children : List (Condition Op)) :
    verdict ((any children).evaluate binding) = decided binding true children := by
  rw [verdict_eq, flag_any, decided_eq]

theorem verdict_not (binding : Binding) (child : Condition Op) :
    verdict ((not child).evaluate binding) = (verdict (child.evaluate binding)).map (!·) := by
  rw [verdict_eq, flag_not, verdict_eq, toOption_map]

variable {p q : Binding}

mutual

/-- A condition has the same verdict on bindings on which its leaves have the same verdicts. -/
theorem verdict_congr : (c : Condition Op) →
    (∀ op ∈ c.operators, verdict (Operator.evaluate op p) = verdict (Operator.evaluate op q)) →
    verdict (c.evaluate p) = verdict (c.evaluate q)
  | .leaf op, h => by
    rw [verdict_leaf, verdict_leaf]
    exact h op (by simp [operators])
  | .all children, h => by
    rw [verdict_all, verdict_all, decided_congr false children (by simpa [operators] using h)]
  | .any children, h => by
    rw [verdict_any, verdict_any, decided_congr true children (by simpa [operators] using h)]
  | .not child, h => by
    rw [verdict_not, verdict_not, verdict_congr child (by simpa [operators] using h)]

/-- A group is decided alike on bindings on which its leaves have the same verdicts. -/
theorem decided_congr (v : Bool) : (cs : List (Condition Op)) →
    (∀ op ∈ operatorsOf cs, verdict (Operator.evaluate op p) = verdict (Operator.evaluate op q)) →
    decided p v cs = decided q v cs
  | [], _ => rfl
  | c :: cs, h => by
    have hc := verdict_congr c fun op hop => h op (by simp [operatorsOf, hop])
    have hcs := decided_congr v cs fun op hop => h op (by simp [operatorsOf, hop])
    rw [decided_cons, decided_cons, hc, hcs]

end

end Condition

/-! ## Rules -/

/-- An evaluation without its reason. -/
def RuleEvaluation.judgement (e : RuleEvaluation) : String × Bool := (e.ruleName, e.passed)

section

variable {Op Binding : Type} [Operator Op Binding] {p q : Binding}

theorem Rule.judgement_evaluate (rule : Rule Op) (binding : Binding) :
    (rule.evaluate binding).toOption.map (·.judgement)
      = (verdict (rule.condition.evaluate binding)).map (rule.name, ·) := by
  unfold Rule.evaluate
  cases rule.condition.evaluate binding <;> rfl

theorem Rule.judgement_congr {rule : Rule Op}
    (h : verdict (rule.condition.evaluate p) = verdict (rule.condition.evaluate q)) :
    (rule.evaluate p).toOption.map (·.judgement)
      = (rule.evaluate q).toOption.map (·.judgement) := by
  rw [rule.judgement_evaluate, rule.judgement_evaluate, h]

namespace RuleSet

theorem judgements_congr {rules : List (Rule Op)}
    (h : ∀ rule ∈ rules,
      verdict (rule.condition.evaluate p) = verdict (rule.condition.evaluate q)) :
    (rules.mapM fun rule : Rule Op => rule.evaluate p).toOption.map (List.map (·.judgement))
      = (rules.mapM fun rule : Rule Op => rule.evaluate q).toOption.map (List.map (·.judgement)) := by
  rw [toOption_mapM, toOption_mapM]
  induction rules with
  | nil => rfl
  | cons rule rules ih =>
    obtain ⟨hr, hrs⟩ := List.forall_mem_cons.1 h
    rw [List.mapM_cons, List.mapM_cons, Rule.judgement_congr hr, ih hrs]

theorem toOption_passesAll_cons (rule : Rule Op) (rules : List (Rule Op)) (binding : Binding) :
    (passesAll binding (rule :: rules)).toOption =
      (verdict (rule.condition.evaluate binding)).bind fun b =>
        if b then (passesAll binding rules).toOption else some false := by
  rw [passesAll, toOption_bind, Rule.evaluate]
  cases rule.condition.evaluate binding with
  | error e => rfl
  | ok outcome =>
    rcases outcome with ⟨_ | _, _⟩
    · rfl
    · rfl

theorem passesAll_congr {rules : List (Rule Op)}
    (h : ∀ rule ∈ rules,
      verdict (rule.condition.evaluate p) = verdict (rule.condition.evaluate q)) :
    (passesAll p rules).toOption = (passesAll q rules).toOption := by
  induction rules with
  | nil => rfl
  | cons rule rules ih =>
    obtain ⟨hr, hrs⟩ := List.forall_mem_cons.1 h
    rw [toOption_passesAll_cons, toOption_passesAll_cons, hr, ih hrs]

end RuleSet

end

end Ensemble
