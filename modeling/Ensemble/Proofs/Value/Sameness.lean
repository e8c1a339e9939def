import Ensemble.Proofs.Value.Packing

/-!
# Sameness of values

Values are the same as rules see it when they are equal, or an integer and a float of equal
magnitude.  This is reflexive and symmetric.  It is not transitive: both zeros are the same as the
integer zero, but as floats they are told apart, and an integer is compared with a float after it
was rounded to one.  Otherwise what is the same as the same value is the same.
-/

namespace Ensemble

namespace Value

variable {u v w : Value}

/-- The same values are equal ones, and integers with floats of equal magnitude. -/
theorem sameAs_iff : u.sameAs v = true ↔
    u = v ∨ ∃ n x, (u = .int n ∧ v = .float x ∨ u = .float x ∧ v = .int n) ∧
      (Float.ofInt n.toInt == x) = true := by
  constructor
  · intro h
    cases u <;> cases v
    case int.float n x => exact .inr ⟨n, x, .inl ⟨rfl, rfl⟩, h⟩
    case float.int x n => exact .inr ⟨n, x, .inr ⟨rfl, rfl⟩, (float_beq_comm ..).trans h⟩
    all_goals exact .inl (eq_of_beq h)
  · rintro (rfl | ⟨n, x, ⟨rfl, rfl⟩ | ⟨rfl, rfl⟩, h⟩)
    · cases u <;> exact beq_self_eq_true _
    · exact h
    · exact (float_beq_comm ..).trans h

theorem sameAs_refl (v : Value) : v.sameAs v = true := sameAs_iff.2 (.inl rfl)

theorem sameAs_comm (u v : Value) : u.sameAs v = v.sameAs u := by
  rw [Bool.eq_iff_iff, sameAs_iff, sameAs_iff]
  refine or_congr eq_comm (exists_congr fun n => exists_congr fun x => and_congr_left' ?_)
  exact or_comm.trans (or_congr and_comm and_comm)

theorem sameAs_iff_eq (hu : u.type ≠ .float) (hv : v.type ≠ .float) :
    u.sameAs v = true ↔ u = v := by
  refine ⟨fun h => ?_, fun h => h ▸ sameAs_refl u⟩
  obtain h | ⟨n, x, ⟨rfl, rfl⟩ | ⟨rfl, rfl⟩, -⟩ := sameAs_iff.1 h
  · exact h
  · exact absurd rfl hv
  · exact absurd rfl hu

/-! ## Chains -/

/-- Two floats that are zeros of different signs. -/
def OppositeZeros (u w : Value) : Prop :=
  u = .float 0 ∧ w = .float (-0) ∨ u = .float (-0) ∧ w = .float 0

/-- Two different integers with a float between them.  If it is the same as both, they were rounded
to it. -/
def RoundedAlike (u v w : Value) : Prop :=
  ∃ n x m, u = .int n ∧ v = .float x ∧ w = .int m ∧ n ≠ m

instance : Decidable (OppositeZeros u w) := inferInstanceAs (Decidable (_ ∨ _))

theorem not_sameAs_of_oppositeZeros (h : OppositeZeros u w) : u.sameAs w = false := by
  obtain ⟨rfl, rfl⟩ | ⟨rfl, rfl⟩ := h <;> decide +kernel

/-- What is the same as the same value is the same, unless they are two zeros or were rounded. -/
theorem sameAs_trans_or (huv : u.sameAs v = true) (hvw : v.sameAs w = true) :
    u.sameAs w = true ∨ OppositeZeros u w ∨ RoundedAlike u v w := by
  obtain rfl | ⟨n, x, huv', hx⟩ := sameAs_iff.1 huv
  · exact .inl hvw
  obtain rfl | ⟨m, y, hvw', hy⟩ := sameAs_iff.1 hvw
  · exact .inl huv
  obtain ⟨rfl, rfl⟩ | ⟨rfl, rfl⟩ := huv'
  · obtain ⟨h, -⟩ | ⟨h, rfl⟩ := hvw'
    · cases h
    · by_cases hnm : n = m
      · exact .inl (hnm ▸ sameAs_refl _)
      · exact .inr (.inr ⟨n, x, m, rfl, rfl, rfl, hnm⟩)
  · obtain ⟨h, rfl⟩ | ⟨h, -⟩ := hvw'
    · obtain rfl := Value.int.inj h
      rw [float_beq_comm] at hx
      obtain rfl | ⟨rfl, rfl⟩ | ⟨rfl, rfl⟩ := eq_or_zeros_of_float_beq (float_beq_trans hx hy)
      · exact .inl (sameAs_refl _)
      · exact .inr (.inl (.inl ⟨rfl, rfl⟩))
      · exact .inr (.inl (.inr ⟨rfl, rfl⟩))
    · cases h

/-- Sameness is reflexive and symmetric, and, apart from rounded integers, what is the same as the
same value is the same unless it is a zero of the other sign. -/
theorem sameAs_equivalence :
    (∀ u : Value, u.sameAs u = true)
      ∧ (∀ u v : Value, u.sameAs v = true → v.sameAs u = true)
      ∧ ∀ u v w : Value, u.sameAs v = true → v.sameAs w = true → ¬ RoundedAlike u v w →
        (u.sameAs w = true ↔ ¬ OppositeZeros u w) := by
  refine ⟨sameAs_refl, fun u v h => sameAs_comm u v ▸ h, fun u v w huv hvw hrounded => ?_⟩
  constructor
  · intro h hzeros
    rw [not_sameAs_of_oppositeZeros hzeros] at h
    cases h
  · intro hzeros
    obtain h | h | h := sameAs_trans_or huv hvw
    · exact h
    · exact absurd h hzeros
    · exact absurd h hrounded

/-- A float and an integer between two floats. -/
theorem sameAs_equivalence_two :
    let u := Value.float 2
    let v := Value.int 2
    u.sameAs v = true ∧ v.sameAs u = true ∧ ¬ RoundedAlike u v u ∧ ¬ OppositeZeros u u
      ∧ u.sameAs u = true := by
  intro u v
  have huv : u.sameAs v = true := by decide +kernel
  have hrounded : ¬ RoundedAlike u v u := fun ⟨_, _, _, h, _⟩ => nomatch h
  have hzeros : ¬ OppositeZeros u u := by decide +kernel
  obtain ⟨-, hsymm, htrans⟩ := sameAs_equivalence
  have hvu : v.sameAs u = true := hsymm u v huv
  exact ⟨huv, hvu, hrounded, hzeros, (htrans u v u huv hvu hrounded).2 hzeros⟩

/-- The integer zero is the same as both zeros, which are told apart.  A float is the same as all
integers that are rounded to it, which are told apart as well. -/
theorem sameAs_not_transitive :
    (Value.sameAs (.float 0) (.int 0) = true ∧ Value.sameAs (.int 0) (.float (-0)) = true
        ∧ Value.sameAs (.float 0) (.float (-0)) = false)
      ∧ Value.sameAs (.int 9007199254740992) (.float 9007199254740992) = true
      ∧ Value.sameAs (.float 9007199254740992) (.int 9007199254740993) = true
      ∧ Value.sameAs (.int 9007199254740992) (.int 9007199254740993) = false := by
  decide +kernel

end Value

end Ensemble
