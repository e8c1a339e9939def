import Ensemble.Condition.PairOperator
import Ensemble.Condition.SetOperator
import Ensemble.Proofs.Error.Causes

/-!
# Errors of resolving operators

The parameters of an operator are read, and operators are resolved, before anything is known of the
node where they are written.  So the errors have no place yet.
-/

namespace Ensemble

/-- Every error of a computation is without a place. -/
abbrev Unplaced {α : Type} (x : Except Error α) : Prop := ErrorsAre (·.place = none) x

/-! ## Parameters -/

namespace Params

variable (params : Params) (key : String)

theorem unplaced_require : Unplaced (params.require key) := by
  unfold require
  split
  · exact errorsAre_ok _
  · exact errorsAre_error rfl

theorem unplaced_expectOnly (allowed : List String) : Unplaced (params.expectOnly allowed) := by
  unfold expectOnly
  split
  · exact errorsAre_ok ()
  · exact errorsAre_error rfl

theorem unplaced_field : Unplaced params.field := by
  refine (params.unplaced_require "field").bind fun d _ => ?_
  split
  · split
    · exact errorsAre_error rfl
    · exact errorsAre_pure _
  · exact errorsAre_error rfl

theorem unplaced_value : Unplaced (params.value key) :=
  (params.unplaced_require key).bind fun _ _ => errorsAre_pure _

theorem unplaced_number : Unplaced (params.number key) := by
  refine (params.unplaced_require key).bind fun d _ => ?_
  split
  · split
    · exact errorsAre_pure _
    · exact errorsAre_error rfl
  · exact errorsAre_error rfl

theorem unplaced_numberOr (absent : Float) : Unplaced (params.numberOr key absent) := by
  unfold numberOr
  split
  · exact errorsAre_ok absent
  · exact params.unplaced_number key

theorem unplaced_nonNegative : Unplaced (params.nonNegative key) := by
  refine (params.unplaced_number key).bind fun x _ => ?_
  split
  · exact errorsAre_error rfl
  · exact errorsAre_pure _

theorem unplaced_count : Unplaced (params.count key) := by
  refine (params.unplaced_require key).bind fun d _ => ?_
  split
  · exact errorsAre_pure _
  · exact errorsAre_error rfl

theorem unplaced_comparison : Unplaced (params.comparison key) := by
  refine (params.unplaced_require key).bind fun d _ => ?_
  split
  · rename_i s _
    cases Comparison.parse s with
    | error message => exact errorsAre_error rfl
    | ok c => exact errorsAre_ok c
  · exact errorsAre_error rfl

end Params

/-! ## Operators -/

theorem PairOperator.unplaced_threshold (params : Params) : Unplaced (threshold params) := by
  refine (params.unplaced_numberOr "threshold" 1).bind fun x _ => ?_
  split
  · exact errorsAre_error rfl
  · exact errorsAre_pure _

theorem PairOperator.unplaced_resolve (params : Params) : Unplaced (resolve params) := by
  have takesField : ∀ make : String → PairOperator, Unplaced (do
      params.expectOnly ["field"]
      return make (← params.field)) := fun make =>
    (params.unplaced_expectOnly _).bind fun _ _ => params.unplaced_field.bind fun _ _ =>
      errorsAre_pure _
  unfold resolve
  split
  · exact takesField .equals
  · exact takesField .hasDifferent
  · refine (params.unplaced_expectOnly _).bind fun _ _ => params.unplaced_field.bind fun _ _ => ?_
    exact (params.unplaced_comparison _).bind fun _ _ =>
      (params.unplaced_number _).bind fun _ _ => errorsAre_pure _
  · refine (params.unplaced_expectOnly _).bind fun _ _ => params.unplaced_field.bind fun _ _ => ?_
    exact (params.unplaced_value _).bind fun _ _ => errorsAre_pure _
  · exact takesField .sameListItem
  · refine (params.unplaced_expectOnly _).bind fun _ _ => ?_
    exact (unplaced_threshold params).bind fun _ _ => params.unplaced_field.bind fun _ _ =>
      errorsAre_pure _
  · exact takesField .layerCompatible
  · exact errorsAre_error rfl

theorem SetOperator.unplaced_resolve (params : Params) : Unplaced (resolve params) := by
  unfold resolve
  split
  · refine (params.unplaced_expectOnly _).bind fun _ _ => ?_
    exact (params.unplaced_count _).bind fun _ _ => errorsAre_pure _
  · refine (params.unplaced_expectOnly _).bind fun _ _ => ?_
    exact (params.unplaced_count _).bind fun _ _ => errorsAre_pure _
  · refine (params.unplaced_expectOnly _).bind fun _ _ => ?_
    exact params.unplaced_field.bind fun _ _ => errorsAre_pure _
  · refine (params.unplaced_expectOnly _).bind fun _ _ => params.unplaced_field.bind fun _ _ => ?_
    exact (params.unplaced_value _).bind fun _ _ => errorsAre_pure _
  · refine (params.unplaced_expectOnly _).bind fun _ _ => params.unplaced_field.bind fun _ _ => ?_
    exact (params.unplaced_comparison _).bind fun _ _ =>
      (params.unplaced_nonNegative _).bind fun _ _ => errorsAre_pure _
  · refine (params.unplaced_expectOnly _).bind fun _ _ => params.unplaced_field.bind fun _ _ => ?_
    exact (params.unplaced_nonNegative _).bind fun _ _ => errorsAre_pure _
  · exact errorsAre_error rfl

/-- A family whose operators are resolved without a place in the error. -/
class Operator.Unplacing (Op : Type) {Binding : outParam Type} [Operator Op Binding] : Prop where
  unplaced_resolve : ∀ params, Unplaced (Operator.resolve params : Except Error Op)

instance : Operator.Unplacing PairOperator := ⟨PairOperator.unplaced_resolve⟩

instance : Operator.Unplacing SetOperator := ⟨SetOperator.unplaced_resolve⟩

theorem Operator.unplaced_ofParams {Op Binding : Type} [Operator Op Binding] [Unplacing Op]
    (name : String) (body : Document) :
    Unplaced (Params.ofDocument name body >>= ofParams Op) := by
  refine ErrorsAre.bind ?_ fun params _ => ?_
  · unfold Params.ofDocument
    split
    · exact errorsAre_ok _
    · exact errorsAre_error rfl
  · unfold ofParams
    split
    · exact errorsAre_error rfl
    · split
      · exact Unplacing.unplaced_resolve params
      · exact errorsAre_error rfl

end Ensemble
