import Ensemble.Proofs.Value.Rounding

/-!
# Quotients of whole numbers

The quotient of two whole numbers of 64 bits is finite, unless the divisor is zero: its exponent is
far below the greatest one.  How it is rounded does not matter for this, only that rounding adds one
to a mantissa at most.
-/

namespace Ensemble

open Float.Model

variable {s t : UnpackedFloat.Sign} {u w : UnpackedFloat} {a b m n : Nat} {e bound : Int}

/-! ## Small exponents -/

/-- A finite number whose exponent is below a bound. -/
inductive Below (bound : Int) : UnpackedFloat → Prop
  | zero {s : UnpackedFloat.Sign} : Below bound (.zero s)
  | finite {s : UnpackedFloat.Sign} {m : Nat} {e : Int} {hpos : 0 < m} (he : e < bound) :
    Below bound (.finite s m e hpos)

theorem Below.mono {bound' : Int} (h : Below bound u) (hbound : bound ≤ bound') :
    Below bound' u := by
  cases h with
  | zero => exact .zero
  | finite he => exact .finite (by omega)

theorem isFinite_unpack_packComponents {e : BitVec 11} {t : BitVec 52} (he : e ≠ -1#11) :
    (UnpackedFloat.unpack .binary64
      (UnpackedFloat.packComponents .binary64 s e t)).isFinite = true := by
  by_cases hzero : e = 0#11
  · subst hzero
    rcases Nat.eq_zero_or_pos t.toNat with ht | ht
    · obtain rfl : t = 0#52 := BitVec.eq_of_toNat_eq ht
      cases s <;> rfl
    · rw [unpack_subnormal ht]
      rfl
  · rw [unpack_packComponents (by omega) hzero he]
    rfl

/-- A number that is not too large is stored as a finite one. -/
theorem Below.isFinite (h : Below 972 u) : (Float.Model.pack u).unpack.isFinite = true := by
  cases h with
  | @zero s => cases s <;> rfl
  | @finite s m e hpos he =>
    show (UnpackedFloat.unpack .binary64 (UnpackedFloat.pack .binary64 _)).isFinite = true
    have hsmall : (e + Format.binary64.exponentBias
        + Format.binary64.mantissaBitsWithoutImplicit).toNat < 2047 := by
      show (e + 1023 + 52).toNat < 2047
      omega
    unfold UnpackedFloat.pack
    dsimp only
    generalize (e + Format.binary64.exponentBias
        + Format.binary64.mantissaBitsWithoutImplicit).toNat = biased at hsmall
    rw [if_neg (show ¬ 2 ^ 11 ≤ biased + 1 by omega)]
    split
    · refine isFinite_unpack_packComponents fun h => absurd (congrArg BitVec.toNat h) ?_
      rw [BitVec.toNat_ofNat]
      show biased % 2 ^ 11 ≠ 2047
      omega
    · exact isFinite_unpack_packComponents (by decide)

/-! ## Rounding -/

theorem mantissa_ofMantissaAndAccuracy (m : Nat) (acc : UnpackedFloat.Accuracy) :
    (UnpackedFloat.ExtendedMantissa.ofMantissaAndAccuracy m acc).mantissa = m := by
  rcases acc with _ | o
  · rfl
  · cases o <;> rfl

theorem mantissa_shiftRight_le (em : UnpackedFloat.ExtendedMantissa) (k : Nat) :
    (em >>> k).mantissa ≤ em.mantissa := by
  induction k with
  | zero => exact Nat.le_refl _
  | succ k ih => exact (Nat.div_le_self (em >>> k).mantissa 2).trans ih

theorem roundedMantissa_le (em : UnpackedFloat.ExtendedMantissa) :
    em.roundedMantissa ≤ em.mantissa + 1 := by
  unfold UnpackedFloat.ExtendedMantissa.roundedMantissa UnpackedFloat.Accuracy.roundToNearestEven
  split <;> omega

/-- Bits that are dropped make the mantissa no larger, and add to the exponent what they are. -/
theorem shiftToTargetExponent_le (hm : m < 2 ^ n) (he : e < bound) (hbound : 0 ≤ bound)
    (acc : UnpackedFloat.Accuracy) :
    (UnpackedFloat.shiftToTargetExponent .binary64 m e acc).1.mantissa ≤ m ∧
      (UnpackedFloat.shiftToTargetExponent .binary64 m e acc).2 < n + bound := by
  have hlog : m.log2 ≤ n := by
    rcases Nat.eq_zero_or_pos m with rfl | hpos
    · exact Nat.zero_le n
    · exact ((Nat.log2_lt (by omega)).2 hm).le
  have htarget : Format.binary64.targetExponent (totalExponent m e)
      = max ((m.log2 : Int) + 1 + e - 53) (-1074) := rfl
  constructor
  · refine (mantissa_shiftRight_le _ _).trans_eq (mantissa_ofMantissaAndAccuracy m acc)
  · show e + ((Format.binary64.targetExponent (totalExponent m e) - e).toNat : Int) < n + bound
    omega

theorem below_roundWithAccuracy (hm : m < 2 ^ n) (he : e < bound) (hbound : 0 ≤ bound)
    (s : UnpackedFloat.Sign) (acc : UnpackedFloat.Accuracy) :
    Below ((n + 1 : Nat) + (n + bound)) (UnpackedFloat.roundWithAccuracy .binary64 s m e acc) := by
  obtain ⟨hmantissa, hexponent⟩ := shiftToTargetExponent_le hm he hbound acc
  unfold UnpackedFloat.roundWithAccuracy
  dsimp only
  generalize UnpackedFloat.shiftToTargetExponent .binary64 m e acc = first at hmantissa hexponent
  have hrounded : first.1.roundedMantissa < 2 ^ (n + 1) := by
    have hle := roundedMantissa_le first.1
    rw [Nat.pow_succ]
    omega
  obtain ⟨-, hlast⟩ := shiftToTargetExponent_le hrounded hexponent (by omega) .exact
  generalize UnpackedFloat.shiftToTargetExponent .binary64 first.1.roundedMantissa first.2 .exact
    = last at hlast
  by_cases hzero : last.1.mantissa = 0
  · rw [dif_pos hzero]
    exact .zero
  · rw [dif_neg hzero]
    exact .finite hlast

/-! ## Dividing -/

/-- The quotient of two mantissas with 53 bits has twice as many at most. -/
theorem divCore_le (hm : 2 ^ 52 ≤ m) (hm' : m < 2 ^ 53) (hn : 2 ^ 52 ≤ n) (hn' : n < 2 ^ 53)
    (e f : Int) :
    (UnpackedFloat.divCore .binary64 m e n f).1 < 2 ^ 106 ∧
      (UnpackedFloat.divCore .binary64 m e n f).2.1 ≤ e - f := by
  have hmlog : m.log2 = 52 := (Nat.log2_eq_iff (by omega)).2 ⟨hm, hm'⟩
  have hnlog : n.log2 = 52 := (Nat.log2_eq_iff (by omega)).2 ⟨hn, hn'⟩
  have htarget : Format.binary64.targetExponent (totalExponent m e - totalExponent n f)
      = max ((m.log2 : Int) + 1 + e - ((n.log2 : Int) + 1 + f) - 53) (-1074) := rfl
  rw [hmlog, hnlog] at htarget
  unfold UnpackedFloat.divCore
  dsimp only
  rw [htarget]
  refine ⟨?_, Int.min_le_left ..⟩
  generalize hk : (e - f - min (e - f) (max ((52 : Nat) + 1 + e - ((52 : Nat) + 1 + f) - 53)
    (-1074))).toNat = k
  have hshift : 2 ^ k ≤ 2 ^ 53 := Nat.pow_le_pow_right (by decide) (by omega)
  calc m <<< k / n ≤ m * 2 ^ k := by rw [Nat.shiftLeft_eq]; exact Nat.div_le_self ..
    _ ≤ m * 2 ^ 53 := Nat.mul_le_mul_left _ hshift
    _ < 2 ^ 106 := by omega

theorem Normal.below_div (hu : Normal s a u) (hw : Normal t b w) (ha : a < 2 ^ 128) :
    Below 972 (UnpackedFloat.div .binary64 u w) := by
  cases hu with
  | @finite m p hpos hlow hhigh hmp =>
    cases hw with
    | @finite n q hpos' hlow' hhigh' hnq =>
      have hp : p < 76 := (mul_two_pow_lt_iff (.inr hlow) hhigh (by decide)).1 (hmp ▸ ha)
      obtain ⟨hmantissa, hexponent⟩ := divCore_le hlow hhigh hlow' hhigh' (p - 52) (q - 52)
      have hsmall : (UnpackedFloat.divCore .binary64 m (p - 52) n (q - 52)).2.1 < 76 := by omega
      exact (below_roundWithAccuracy hmantissa hsmall (by decide) (s / t) _).mono (by decide)

theorem Rounds.below_div {n m : Int} (hu : Rounds n u) (hw : Rounds m w) (hn : n.natAbs < 2 ^ 64)
    (hm : m ≠ 0) : Below 972 (UnpackedFloat.div .binary64 u w) := by
  cases hw with
  | zero => exact absurd rfl hm
  | normal hy hw =>
    cases hu with
    | zero =>
      cases hw
      exact .zero
    | normal hx hu =>
      rw [natAbs_apply] at hn
      exact hu.below_div hw (hx.lt hn)

/-- The quotient of two whole numbers is finite, unless the divisor is zero. -/
theorem isFinite_ofNat_div_ofNat (ha : a < 2 ^ 64) (hb : b < 2 ^ 64) (hpos : 0 < b) :
    (Float.ofNat a / Float.ofNat b).isFinite = true := by
  have hbelow := (rounds_float_ofNat ha).below_div (rounds_float_ofNat hb) ha (by omega)
  exact hbelow.isFinite

/-- A quotient is finite if something else stands for it where the divisor is zero. -/
theorem isFinite_quotient {p : Prop} [Decidable p] (ha : a < 2 ^ 64) (hb : b < 2 ^ 64)
    (hp : b = 0 → p) : (if p then 0 else Float.ofNat a / Float.ofNat b).isFinite = true := by
  by_cases h : p
  · rw [if_pos h]
    decide +kernel
  · rw [if_neg h]
    exact isFinite_ofNat_div_ofNat ha hb (Nat.pos_of_ne_zero fun hzero => h (hp hzero))

end Ensemble
