import Ensemble.Pairing.Matcher
import Ensemble.Proofs.Condition.Verdict
import Ensemble.Proofs.Dictionary
import Ensemble.Proofs.Value.Sameness

/-!
# Symmetry of evaluations over two items

No operator over two items tells the first from the second, apart from its reason.  So conditions,
rules and rule sets have the same verdict on a pair and on the swapped pair.
-/

namespace Ensemble

/-! ## Layers -/

namespace LayerVerdict

theorem mem_sharedParts {a b : Dictionary Float} {part : String} {x y : Float} :
    (part, x, y) ∈ sharedParts a b ↔ a.get? part = some x ∧ b.get? part = some y := by
  simp only [sharedParts, List.mem_filterMap, Option.map_eq_some_iff, Prod.mk.injEq, Prod.exists]
  constructor
  · rintro ⟨_, _, hx, _, hy, rfl, rfl, rfl⟩
    exact ⟨Dictionary.get?_eq_some_iff.2 hx, hy⟩
  · rintro ⟨hx, hy⟩
    exact ⟨part, x, Dictionary.get?_eq_some_iff.1 hx, y, hy, rfl, rfl, rfl⟩

/-- Whether a part that both items cover has layers in a relation. -/
def Shares (r : Float → Float → Prop) (a b : Dictionary Float) : Prop :=
  ∃ part x y, a.get? part = some x ∧ b.get? part = some y ∧ r x y

theorem shares_swap {r : Float → Float → Prop} {a b : Dictionary Float} :
    Shares r a b ↔ Shares (fun x y => r y x) b a :=
  ⟨fun ⟨part, x, y, hx, hy, h⟩ => ⟨part, y, x, hy, hx, h⟩,
    fun ⟨part, y, x, hy, hx, h⟩ => ⟨part, x, y, hx, hy, h⟩⟩

theorem isEmpty_select (a b : Dictionary Float) (decides : Float → Float → Bool) :
    (((sharedParts a b).filter fun (_, x, y) => decides x y).map (·.1)).isEmpty = false ↔
      Shares (fun x y => decides x y) a b := by
  rw [← Bool.not_eq_true, List.isEmpty_iff, List.map_eq_nil_iff, List.filter_eq_nil_iff]
  simp only [Prod.forall, mem_sharedParts, Shares]
  grind

/-- Only whether the three lists are empty decides whether the layers go together. -/
theorem isCompatible_of_lists {same outer inner shared : List String} {empty firstOuter : Bool} :
    isCompatible
        (if !same.isEmpty then .sameLayer same
        else if !outer.isEmpty && !inner.isEmpty then .phasing outer inner
        else if empty then .disjoint
        else .ordered shared firstOuter) = true ↔
      ¬ same.isEmpty = false ∧ ¬ (outer.isEmpty = false ∧ inner.isEmpty = false) := by
  cases same.isEmpty
  case false => simp [isCompatible]
  case true => cases outer.isEmpty <;> cases inner.isEmpty <;> cases empty <;> simp [isCompatible]

/-- Layers go together unless some are the same, or some are in one order and some in the other. -/
theorem isCompatible_ofLayers {a b : Dictionary Float} :
    (ofLayers a b).isCompatible = true ↔
      ¬ Shares (fun x y => ¬ x > y ∧ ¬ x < y) a b ∧
        ¬ (Shares (fun x y => x > y) a b ∧ Shares (fun x y => x < y) a b) := by
  have same := isEmpty_select a b fun x y => !(x > y) && !(x < y)
  have outer := isEmpty_select a b fun x y => x > y
  have inner := isEmpty_select a b fun x y => x < y
  simp only [Bool.and_eq_true, Bool.not_eq_true', decide_eq_false_iff_not, decide_eq_true_eq]
    at same outer inner
  rw [← same, ← outer, ← inner]
  exact isCompatible_of_lists

theorem isCompatible_swap (a b : Dictionary Float) :
    (ofLayers a b).isCompatible = (ofLayers b a).isCompatible := by
  rw [Bool.eq_iff_iff, isCompatible_ofLayers, isCompatible_ofLayers,
    shares_swap (a := b), shares_swap (a := b), shares_swap (a := b)]
  simp only [gt_iff_lt, and_comm]

end LayerVerdict

/-! ## Operators -/

namespace PairOperator

theorem compareValues_swap (field : String) (same : Bool) (a b : Item) :
    (compareValues field same ⟨a, b⟩).passed = (compareValues field same ⟨b, a⟩).passed := by
  unfold compareValues
  cases a.attribute? field with
  | none => cases b.attribute? field <;> rfl
  | some x =>
    cases b.attribute? field with
    | none => rfl
    | some y =>
      dsimp only
      rw [Value.sameAs_comm y x]
      split <;> rfl

/-- Two numbers are judged alike in either order if the judge does not mind their order. -/
theorem verdict_compareNumbers_swap {field : String} {judge : Float → Float → Outcome}
    (h : ∀ x y, (judge x y).passed = (judge y x).passed) (a b : Item) :
    verdict (compareNumbers field judge ⟨a, b⟩) = verdict (compareNumbers field judge ⟨b, a⟩) := by
  unfold compareNumbers
  cases Operator.number? a field with
  | error e => cases Operator.number? b field <;> rfl
  | ok x? =>
    cases Operator.number? b field with
    | error e => rfl
    | ok y? =>
      cases x? with
      | none => cases y? <;> rfl
      | some x =>
        cases y? with
        | none => rfl
        | some y => exact congrArg some (h x y)

theorem verdict_hasValue (field : String) (value : Value) (a b : Item) :
    verdict ((hasValue field value).evaluate ⟨a, b⟩)
      = some (Operator.carries a field value || Operator.carries b field value) := by
  simp only [evaluate, Pair.items, List.find?_cons]
  cases Operator.carries a field value <;> cases Operator.carries b field value <;> rfl

theorem sharedItems_eq_nil_iff {xs ys : List Value} :
    sharedItems xs ys = [] ↔ ∀ x ∈ xs, ∀ y ∈ ys, y.sameAs x = false := by
  have empty : ∀ vs : List Value,
      vs.eraseDupsBy (fun v earlier => earlier.sameAs v) = [] ↔ vs = [] := by
    rintro (_ | ⟨v, vs⟩)
    · exact ⟨fun _ => rfl, fun _ => rfl⟩
    · simp [List.eraseDupsBy_cons]
  simp [sharedItems, empty]

theorem verdict_sameListItem_swap (field : String) (a b : Item) :
    verdict ((sameListItem field).evaluate ⟨a, b⟩)
      = verdict ((sameListItem field).evaluate ⟨b, a⟩) := by
  simp only [evaluate]
  cases Operator.list? a field with
  | error e => cases Operator.list? b field <;> rfl
  | ok xs? =>
    cases Operator.list? b field with
    | error e => rfl
    | ok ys? =>
      cases xs? with
      | none => cases ys? <;> rfl
      | some xs =>
        cases ys? with
        | none => rfl
        | some ys =>
          have h : sharedItems xs ys = [] ↔ sharedItems ys xs = [] := by
            rw [sharedItems_eq_nil_iff, sharedItems_eq_nil_iff]
            constructor
            all_goals
              intro h x hx y hy
              rw [Value.sameAs_comm]
              exact h y hy x hx
          simp only [ok_bind]
          cases hx : sharedItems xs ys with
          | nil => rw [h.1 hx]
          | cons x xs =>
            cases hy : sharedItems ys _ with
            | nil =>
              rw [h.2 hy] at hx
              cases hx
            | cons y ys => rfl

theorem verdict_layerCompatible_swap (field : String) (a b : Item) :
    verdict ((layerCompatible field).evaluate ⟨a, b⟩)
      = verdict ((layerCompatible field).evaluate ⟨b, a⟩) := by
  simp only [evaluate]
  cases Operator.coverage a field with
  | error e => cases Operator.coverage b field <;> rfl
  | ok x =>
    cases Operator.coverage b field with
    | error e => rfl
    | ok y => exact congrArg some (LayerVerdict.isCompatible_swap x.flatten y.flatten)

/-- An operator has the same verdict on two items in either order. -/
theorem verdict_swap (op : PairOperator) (a b : Item) :
    verdict (op.evaluate ⟨a, b⟩) = verdict (op.evaluate ⟨b, a⟩) := by
  cases op with
  | equals field => exact congrArg some (compareValues_swap field true a b)
  | hasDifferent field => exact congrArg some (compareValues_swap field false a b)
  | absDiff field comparison value =>
    refine verdict_compareNumbers_swap (fun x y => ?_) a b
    simp only [float_abs_sub_comm x y]
  | hasValue field value => rw [verdict_hasValue, verdict_hasValue, Bool.or_comm]
  | sameListItem field => exact verdict_sameListItem_swap field a b
  | formalityCompatible field threshold =>
    refine verdict_compareNumbers_swap (fun x y => ?_) a b
    simp only [float_abs_sub_comm x y]
  | layerCompatible field => exact verdict_layerCompatible_swap field a b

end PairOperator

/-! ## Conditions and rules -/

theorem Condition.verdict_swap (c : Condition PairOperator) (a b : Item) :
    verdict (c.evaluate ⟨a, b⟩) = verdict (c.evaluate ⟨b, a⟩) :=
  c.verdict_congr fun op _ => op.verdict_swap a b

theorem RuleSet.judgements_swap (rules : PairRules) (a b : Item) :
    (rules.evaluate (⟨a, b⟩ : Pair)).toOption.map (List.map (·.judgement))
      = (rules.evaluate (⟨b, a⟩ : Pair)).toOption.map (List.map (·.judgement)) :=
  judgements_congr fun rule _ => rule.condition.verdict_swap a b

theorem RuleSet.passes_swap (rules : PairRules) (a b : Item) :
    (rules.passes (⟨a, b⟩ : Pair)).toOption = (rules.passes (⟨b, a⟩ : Pair)).toOption :=
  passesAll_congr fun rule _ => rule.condition.verdict_swap a b

/-! ## Matchers -/

/-- A result without its items, its reasons and its time. -/
def PairResult.judgement (result : PairResult) : Bool × List (String × Bool) :=
  (result.compatible, result.evaluations.map (·.judgement))

namespace Matcher

variable {matcher : Matcher} {a b : Item} {v : Bool}

theorem validatePair_swap (matcher : Matcher) (a b : Item) :
    (matcher.validatePair a b).toOption = (matcher.validatePair b a).toOption := by
  unfold validatePair
  rw [toOption_bind, toOption_bind]
  cases matcher.schema.validate a <;> cases matcher.schema.validate b <;> rfl

theorem judgement_compare (matcher : Matcher) (a b : Item) :
    (matcher.compare 0 a b).toOption.map (·.judgement)
      = ((matcher.rules.evaluate (⟨a, b⟩ : Pair)).toOption.map (List.map (·.judgement))).map
          fun judgements => (judgements.all (·.2), judgements) := by
  unfold compare
  cases matcher.rules.evaluate (⟨a, b⟩ : Pair) with
  | error e => rfl
  | ok evaluations =>
    have hpassed : RuleEvaluation.allPassed evaluations
        = (evaluations.map (·.judgement)).all (·.2) := by
      rw [List.all_map]
      rfl
    exact congrArg some (Prod.ext hpassed rfl)

theorem passes_swap : matcher.passes a b = .ok v ↔ matcher.passes b a = .ok v := by
  unfold passes
  rw [mapError_eq_ok_iff, mapError_eq_ok_iff, ← toOption_eq_some_iff, ← toOption_eq_some_iff,
    matcher.rules.passes_swap a b]

theorem judgement_evaluatePair_swap (matcher : Matcher) (a b : Item) :
    (matcher.evaluatePair a b).toOption.map (·.judgement)
      = (matcher.evaluatePair b a).toOption.map (·.judgement) := by
  unfold evaluatePair
  rw [toOption_bind, toOption_bind, matcher.validatePair_swap a b, Option.map_bind, Option.map_bind]
  refine congrArg _ (funext fun _ => ?_)
  exact (matcher.judgement_compare a b).trans
    ((congrArg _ (matcher.rules.judgements_swap a b)).trans (matcher.judgement_compare b a).symm)

theorem isCompatible_swap (matcher : Matcher) (a b : Item) :
    (matcher.isCompatible a b).toOption = (matcher.isCompatible b a).toOption := by
  unfold isCompatible passes
  rw [toOption_bind, toOption_bind, matcher.validatePair_swap a b, toOption_mapError,
    toOption_mapError, matcher.rules.passes_swap a b]

end Matcher

/-- Conditions, rules and rule sets, bound to a schema or not, fail on two items in either order or
in none, and otherwise have the same verdict in both. -/
theorem evaluation_symmetric (a b : Item) :
    (∀ op : PairOperator, verdict (op.evaluate ⟨a, b⟩) = verdict (op.evaluate ⟨b, a⟩)) ∧
    (∀ c : Condition PairOperator, verdict (c.evaluate ⟨a, b⟩) = verdict (c.evaluate ⟨b, a⟩)) ∧
    (∀ rule : Rule PairOperator,
      (rule.evaluate (⟨a, b⟩ : Pair)).toOption.map (·.judgement)
        = (rule.evaluate (⟨b, a⟩ : Pair)).toOption.map (·.judgement)) ∧
    (∀ rules : PairRules,
      (rules.evaluate (⟨a, b⟩ : Pair)).toOption.map (List.map (·.judgement))
          = (rules.evaluate (⟨b, a⟩ : Pair)).toOption.map (List.map (·.judgement)) ∧
        (rules.passes (⟨a, b⟩ : Pair)).toOption = (rules.passes (⟨b, a⟩ : Pair)).toOption) ∧
    ∀ matcher : Matcher,
      (matcher.evaluatePair a b).toOption.map (·.judgement)
          = (matcher.evaluatePair b a).toOption.map (·.judgement) ∧
        (matcher.isCompatible a b).toOption = (matcher.isCompatible b a).toOption := by
  refine ⟨fun op => ?_, fun c => ?_, fun rule => ?_, fun rules => ⟨?_, ?_⟩, fun matcher => ⟨?_, ?_⟩⟩
  · exact op.verdict_swap a b
  · exact c.verdict_swap a b
  · exact Rule.judgement_congr (rule.condition.verdict_swap a b)
  · exact rules.judgements_swap a b
  · exact rules.passes_swap a b
  · exact matcher.judgement_evaluatePair_swap a b
  · exact matcher.isCompatible_swap a b

end Ensemble
