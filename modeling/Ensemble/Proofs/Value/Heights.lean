import Ensemble.Proofs.Value.Extremes
import Ensemble.Proofs.Value.Packing

/-!
# Heights

A height is a finite float that is not negative, with one zero only.  Heights are in a linear order:
of two of them the lower one is below the other, unless they are the same.  Every finite float that
is not negative becomes a height when zero is added, and stays the same number.
-/

namespace Ensemble

variable {x y z : Float}

/-! ## The order of numbers -/

theorem float_le_iff_rank (hx : x.isNaN = false) (hy : y.isNaN = false) :
    x ≤ y ↔ rank x ≤ rank y := by
  rw [float_le_iff_not_lt_of_not_nan hx hy, float_lt_iff_rank, ← not_lt]
  simp only [hx, hy, true_and]

/-- What is compared is a number. -/
theorem not_nan_of_float_le (h : x ≤ y) : x.isNaN = false ∧ y.isNaN = false := by
  obtain ⟨o, ho, -⟩ := float_le_iff.1 h
  constructor
  · show x.toModel.unpack.isNaN = false
    cases hx : x.toModel.unpack with
    | notANumber =>
      rw [hx] at ho
      cases ho
    | _ => rfl
  · show y.toModel.unpack.isNaN = false
    cases hy : y.toModel.unpack with
    | notANumber =>
      rw [hy] at ho
      cases hx : x.toModel.unpack <;> rw [hx] at ho <;> cases ho
    | _ => rfl

theorem float_le_trans (hxy : x ≤ y) (hyz : y ≤ z) : x ≤ z := by
  obtain ⟨hx, hy⟩ := not_nan_of_float_le hxy
  obtain ⟨-, hz⟩ := not_nan_of_float_le hyz
  rw [float_le_iff_rank hx hy] at hxy
  rw [float_le_iff_rank hy hz] at hyz
  rw [float_le_iff_rank hx hz]
  exact hxy.trans hyz

/-- Numbers are equal if none is below the other. -/
theorem float_beq_iff_not_lt (hx : x.isNaN = false) (hy : y.isNaN = false) :
    (x == y) = true ↔ ¬ y < x ∧ ¬ x < y := by
  obtain ⟨o, ho⟩ := exists_compare (a := x.toModel.unpack) (b := y.toModel.unpack) hx hy
  rw [float_beq_iff, float_lt_iff, float_lt_iff, unpacked_compare_swap x.toModel.unpack, ho]
  cases o <;> simp

theorem float_beq_self (hx : x.isNaN = false) : (x == x) = true :=
  (float_beq_iff_not_lt hx hx).2 ⟨float_lt_irrefl x, float_lt_irrefl x⟩

theorem float_lt_asymm (h : x < y) : ¬ y < x := by
  rw [float_lt_iff_rank] at h ⊢
  exact fun h' => lt_asymm h.2.2 h'.2.2

/-! ## Heights -/

/-- A finite float that is not negative, and not the negative zero. -/
structure IsHeight (x : Float) : Prop where
  finite : x.isFinite = true
  nonneg : 0 ≤ x
  ne_neg_zero : x ≠ -0

namespace IsHeight

theorem not_nan (hx : IsHeight x) : x.isNaN = false := isNaN_of_isFinite hx.finite

/-- Heights at one place are the same. -/
theorem eq_of_rank (hx : IsHeight x) (hy : IsHeight y) (h : rank x = rank y) : x = y := by
  have heq : (x == y) = true := by
    rw [float_beq_iff_not_lt hx.not_nan hy.not_nan, float_lt_iff_rank, float_lt_iff_rank, h]
    simp only [lt_self_iff_false, and_false, not_false_eq_true, and_self]
  obtain hxy | ⟨-, hy'⟩ | ⟨hx', -⟩ := eq_or_zeros_of_float_beq heq
  · exact hxy
  · exact absurd hy' hy.ne_neg_zero
  · exact absurd hx' hx.ne_neg_zero

theorem eq_of_le_of_le (hx : IsHeight x) (hy : IsHeight y) (hxy : x ≤ y) (hyx : y ≤ x) : x = y := by
  rw [float_le_iff_rank hx.not_nan hy.not_nan] at hxy
  rw [float_le_iff_rank hy.not_nan hx.not_nan] at hyx
  exact hx.eq_of_rank hy (le_antisymm hxy hyx)

theorem le_total (hx : IsHeight x) (hy : IsHeight y) : x ≤ y ∨ y ≤ x := by
  rw [float_le_iff_rank hx.not_nan hy.not_nan, float_le_iff_rank hy.not_nan hx.not_nan]
  exact LinearOrder.le_total _ _

theorem add_zero (hfinite : x.isFinite = true) (hnonneg : 0 ≤ x) : IsHeight (x + 0) := by
  by_cases hx : x = -0
  · subst hx
    constructor <;> decide +kernel
  · rw [float_add_zero hx]
    exact ⟨hfinite, hnonneg, hx⟩

end IsHeight

theorem float_add_zero_beq (hx : x.isNaN = false) : (x + 0 == x) = true := by
  by_cases hzero : x = -0
  · subst hzero
    decide +kernel
  · rw [float_add_zero hzero]
    exact float_beq_self hx

end Ensemble
