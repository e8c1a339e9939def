import Ensemble.Condition.PairOperator
import Ensemble.Condition.SetOperator
import Ensemble.Proofs.Error.Causes
import Ensemble.Proofs.Schema.Acceptance

/-!
# Operators that can read a schema

An operator that can read a schema finds values of the right type in the items of the schema.  So
over two items it always has an outcome.  Over a set of items it fails for two causes only: the set
is empty, or it is asked for the range of an attribute that no member carries.
-/

namespace Ensemble

variable {schema : Schema} {d : Dimension} {a b : Item} {field : String}

/-! ## Reading attributes -/

namespace Operator

theorem dimension_eq_ok_iff {operator : String} :
    dimension operator field schema = .ok d ↔ schema.dimension? field = some d := by
  unfold dimension
  cases schema.dimension? field <;> simp

theorem needs_eq_ok_iff {operator kind : String} {fits : DimensionKind → Bool} :
    needs operator kind fits d = .ok () ↔ fits d.kind = true := by
  unfold needs
  split <;> simp_all

theorem exists_number? (hd : schema.dimension? field = some d) (hkind : d.kind.isNumeric = true)
    (h : schema.validate a = .ok ()) :
    ∃ x?, number? a field = .ok x? ∧ (x? = none ↔ a.attribute? field = none) := by
  unfold number?
  cases hv : a.attribute? field with
  | none => exact ⟨none, rfl, by simp⟩
  | some v =>
    have hcheck : d.check v = .ok () := Schema.check_of_validate h hd hv
    obtain ⟨x, hx⟩ := Dimension.exists_number hkind hcheck
    exact ⟨some x, by simp only [hx], by simp⟩

theorem exists_list? {item : ScalarKind} (hd : schema.dimension? field = some d)
    (hkind : d.kind = .list item) (h : schema.validate a = .ok ()) :
    ∃ xs?, list? a field = .ok xs? := by
  unfold list?
  cases hv : a.attribute? field with
  | none => exact ⟨none, rfl⟩
  | some v =>
    obtain ⟨items, rfl⟩ := Dimension.exists_list hkind (Schema.check_of_validate h hd hv)
    exact ⟨some items, rfl⟩

theorem exists_coverage {vocabulary : Option Vocabulary} (hd : schema.dimension? field = some d)
    (hkind : d.kind = .coverageLayers vocabulary) (h : schema.validate a = .ok ()) :
    ∃ layers, coverage a field = .ok layers := by
  unfold coverage
  cases hv : a.attribute? field with
  | none => exact ⟨[], rfl⟩
  | some v =>
    have hcheck : d.check v = .ok () := Schema.check_of_validate h hd hv
    obtain ⟨layers, hparse⟩ := Dimension.exists_coverage hkind hcheck
    refine ⟨layers, ?_⟩
    simp only [hparse]
    rfl

end Operator

/-! ## Operators over two items -/

namespace PairOperator

theorem exists_compareNumbers {judge : Float → Float → Outcome}
    (hd : schema.dimension? field = some d) (hkind : d.kind.isNumeric = true)
    (ha : schema.validate a = .ok ()) (hb : schema.validate b = .ok ()) :
    ∃ outcome, compareNumbers field judge ⟨a, b⟩ = .ok outcome := by
  obtain ⟨x?, hx, -⟩ := Operator.exists_number? hd hkind ha
  obtain ⟨y?, hy, -⟩ := Operator.exists_number? hd hkind hb
  unfold compareNumbers
  simp only [hx, hy, ok_bind]
  cases x? <;> cases y? <;> exact ⟨_, rfl⟩

theorem exists_outcome_sameListItem {item : ScalarKind} (hd : schema.dimension? field = some d)
    (hkind : d.kind = .list item) (ha : schema.validate a = .ok ())
    (hb : schema.validate b = .ok ()) :
    ∃ outcome, (sameListItem field).evaluate ⟨a, b⟩ = .ok outcome := by
  obtain ⟨xs?, hxs⟩ := Operator.exists_list? hd hkind ha
  obtain ⟨ys?, hys⟩ := Operator.exists_list? hd hkind hb
  simp only [evaluate, hxs, hys, ok_bind]
  rcases xs? with _ | xs <;> rcases ys? with _ | ys
  case some.some =>
    dsimp only
    split <;> exact ⟨_, rfl⟩
  all_goals exact ⟨_, rfl⟩

theorem exists_outcome_layerCompatible {vocabulary : Option Vocabulary}
    (hd : schema.dimension? field = some d) (hkind : d.kind = .coverageLayers vocabulary)
    (ha : schema.validate a = .ok ()) (hb : schema.validate b = .ok ()) :
    ∃ outcome, (layerCompatible field).evaluate ⟨a, b⟩ = .ok outcome := by
  obtain ⟨x, hx⟩ := Operator.exists_coverage hd hkind ha
  obtain ⟨y, hy⟩ := Operator.exists_coverage hd hkind hb
  simp only [evaluate, hx, hy, ok_bind]
  exact ⟨_, rfl⟩

/-- An operator that can read a schema has an outcome on any two items of the schema. -/
theorem exists_outcome {op : PairOperator} (hop : op.checkSchema schema = .ok ())
    (ha : schema.validate a = .ok ()) (hb : schema.validate b = .ok ()) :
    ∃ outcome, op.evaluate ⟨a, b⟩ = .ok outcome := by
  obtain ⟨d, hdim, hkind⟩ := bind_eq_ok_iff.1 hop
  have hd : schema.dimension? op.field = some d := Operator.dimension_eq_ok_iff.1 hdim
  cases op with
  | equals field => exact ⟨_, rfl⟩
  | hasDifferent field => exact ⟨_, rfl⟩
  | absDiff field comparison value =>
    exact exists_compareNumbers hd (Operator.needs_eq_ok_iff.1 hkind) ha hb
  | hasValue field value =>
    simp only [evaluate]
    split <;> exact ⟨_, rfl⟩
  | sameListItem field =>
    have hlist : isList d.kind = true := Operator.needs_eq_ok_iff.1 hkind
    unfold isList at hlist
    split at hlist
    · rename_i item hitem
      exact exists_outcome_sameListItem hd hitem ha hb
    · cases hlist
  | formalityCompatible field threshold =>
    exact exists_compareNumbers hd (Operator.needs_eq_ok_iff.1 hkind) ha hb
  | layerCompatible field =>
    have hcoverage : isCoverage d.kind = true := Operator.needs_eq_ok_iff.1 hkind
    unfold isCoverage at hcoverage
    split at hcoverage
    · rename_i vocabulary hvocabulary
      exact exists_outcome_layerCompatible hd hvocabulary ha hb
    · cases hcoverage

end PairOperator

/-! ## Operators over a set of items -/

namespace SetOperator

variable {items : List Item}

theorem exists_numbers (hd : schema.dimension? field = some d) (hkind : d.kind.isNumeric = true)
    (hitems : ∀ a ∈ items, schema.validate a = .ok ()) :
    ∃ xs, numbers field items = .ok xs ∧ (xs = [] ↔ ∀ a ∈ items, a.attribute? field = none) := by
  induction items with
  | nil => exact ⟨[], rfl, by simp⟩
  | cons a items ih =>
    obtain ⟨ha, hrest⟩ := List.forall_mem_cons.1 hitems
    obtain ⟨x?, hx, hnone⟩ := Operator.exists_number? hd hkind ha
    obtain ⟨xs, hxs, hnil⟩ := ih hrest
    rw [numbers, hx, ok_bind, List.forall_mem_cons, ← hnone, ← hnil]
    cases x? with
    | none => exact ⟨xs, hxs, by simp⟩
    | some x =>
      simp only [hxs, ok_bind]
      exact ⟨x :: xs, rfl, by simp⟩

/-- The causes for which an operator can fail on items of a schema that it can read. -/
inductive Failure (op : SetOperator) (items : List Item) : Cause → Prop
  | empty (h : items = []) : Failure op items (.emptyItemSet op.name)
  | missing {field : String} {maxRange : Float} (hop : op = .formalityRange field maxRange)
      (hne : items ≠ []) (h : ∀ a ∈ items, a.attribute? field = none) :
      Failure op items (.missingField field)

theorem failsOnly_requireMembers {op : SetOperator} :
    FailsOnly (op.Failure items) (op.requireMembers items) := by
  unfold requireMembers
  split
  · rename_i hempty
    exact failsOnly_error (.empty (List.isEmpty_iff.1 hempty))
  · exact failsOnly_ok ()

theorem ne_nil_of_requireMembers {op : SetOperator} (h : op.requireMembers items = .ok ()) :
    items ≠ [] := by
  rintro rfl
  cases h

/-- An operator that can read a schema fails on items of the schema for these causes only. -/
theorem failsOnly_evaluate {op : SetOperator} (hop : op.checkSchema schema = .ok ())
    (hitems : ∀ a ∈ items, schema.validate a = .ok ()) :
    FailsOnly (op.Failure items) (op.evaluate items) := by
  cases op with
  | minClusterSize value => exact failsOnly_pure _
  | maxClusterSize value => exact failsOnly_pure _
  | uniqueValues field =>
    refine failsOnly_requireMembers.bind fun _ _ => ?_
    dsimp only
    split <;> exact failsOnly_pure _
  | hasItemWith field value =>
    refine failsOnly_requireMembers.bind fun _ _ => ?_
    split <;> exact failsOnly_pure _
  | countByField field comparison value =>
    exact failsOnly_requireMembers.bind fun _ _ => failsOnly_pure _
  | formalityRange field maxRange =>
    obtain ⟨d, hdim, hkind⟩ := bind_eq_ok_iff.1 hop
    have hd : schema.dimension? field = some d := Operator.dimension_eq_ok_iff.1 hdim
    have hnumeric : d.kind.isNumeric = true := Operator.needs_eq_ok_iff.1 hkind
    obtain ⟨xs, hxs, hnil⟩ := exists_numbers hd hnumeric hitems
    refine failsOnly_requireMembers.bind fun _ hmembers => ?_
    simp only [hxs, ok_bind]
    cases xs with
    | nil =>
      have hmissing := hnil.1 rfl
      exact failsOnly_error (.missing rfl (ne_nil_of_requireMembers hmembers) hmissing)
    | cons x rest => exact failsOnly_pure _

end SetOperator

end Ensemble
