import Ensemble.Value.Basic

/-!
# Comparing and subtracting floats

The order of two floats is the reverse of the order of the swapped ones, so equality of numbers is
symmetric, and two floats are as far apart in one direction as in the other.  Equal numbers, such as
the two zeros, have the same place in the order.
-/

namespace Ensemble

open Float.Model

/-! ## Order -/

theorem sign_compare_swap (s t : UnpackedFloat.Sign) : compare t s = (compare s t).swap := by
  cases s <;> cases t <;> rfl

theorem unpacked_compare_swap (a b : UnpackedFloat) :
    b.compare a = (a.compare b).map Ordering.swap := by
  rcases a with s | _ | s | ⟨s, m, e, hm⟩ <;> rcases b with t | _ | t | ⟨t, n, f, hn⟩
  case finite.finite =>
    have h : (compare f e).then (compare n m) = ((compare e f).then (compare m n)).swap := by
      rw [Ordering.swap_then, ← Std.OrientedCmp.eq_swap, ← Std.OrientedCmp.eq_swap]
    cases s <;> cases t
    case positive.positive => exact congrArg some h
    case negative.negative => exact congrArg (some ∘ Ordering.swap) h
    all_goals rfl
  case infinity.infinity => exact congrArg some (sign_compare_swap s t)
  all_goals try cases s
  all_goals try cases t
  all_goals rfl

theorem float_beq_comm (x y : Float) : (x == y) = (y == x) := by
  show (x.toModel.unpack.compare y.toModel.unpack == some .eq)
    = (y.toModel.unpack.compare x.toModel.unpack == some .eq)
  rw [unpacked_compare_swap y.toModel.unpack]
  rcases y.toModel.unpack.compare x.toModel.unpack with _ | o
  · rfl
  · cases o <;> rfl

theorem eq_of_compare_then_eq {e f : Int} {m n : Nat}
    (h : (compare e f).then (compare m n) = .eq) : e = f ∧ m = n := by
  obtain ⟨hef, hmn⟩ := Ordering.then_eq_eq.1 h
  exact ⟨Int.compare_eq_eq.1 hef, Nat.compare_eq_eq.1 hmn⟩

/-- Equal numbers are the same, apart from the signs of two zeros. -/
theorem unpacked_eq_or_zero {a b : UnpackedFloat} (h : a.compare b = some .eq) :
    a = b ∨ ∃ s t, a = .zero s ∧ b = .zero t := by
  rcases a with s | _ | s | ⟨s, m, e, hm⟩ <;> rcases b with t | _ | t | ⟨t, n, f, hn⟩
  case zero.zero => exact .inr ⟨s, t, rfl, rfl⟩
  case infinity.infinity =>
    have hst : s = t := by
      cases s <;> cases t <;> first | rfl | cases h
    exact .inl (hst ▸ rfl)
  case finite.finite =>
    cases s <;> cases t
    case positive.positive =>
      obtain ⟨rfl, rfl⟩ := eq_of_compare_then_eq (Option.some.inj h)
      exact .inl rfl
    case negative.negative =>
      have hswap : ((compare e f).then (compare m n)).swap = Ordering.eq.swap := Option.some.inj h
      obtain ⟨rfl, rfl⟩ := eq_of_compare_then_eq (Ordering.swap_inj.1 hswap)
      exact .inl rfl
    all_goals cases h
  all_goals try cases s
  all_goals try cases t
  all_goals cases h

theorem unpacked_compare_congr {a b : UnpackedFloat} (h : a.compare b = some .eq)
    (c : UnpackedFloat) : c.compare a = c.compare b := by
  obtain rfl | ⟨s, t, rfl, rfl⟩ := unpacked_eq_or_zero h
  · rfl
  · -- The order looks at the sign of a zero nowhere.
    rcases c with u | _ | u | ⟨u, m, e, hm⟩
    all_goals try cases u
    all_goals rfl

theorem float_lt_iff {x y : Float} :
    x < y ↔ x.toModel.unpack.compare y.toModel.unpack = some .lt := by
  show decide (x.toModel < y.toModel) = true ↔ _
  rw [decide_eq_true_iff]
  show (x.toModel.unpack.compare y.toModel.unpack == some .lt) = true ↔ _
  exact beq_iff_eq

theorem float_beq_iff {x y : Float} :
    (x == y) = true ↔ x.toModel.unpack.compare y.toModel.unpack = some .eq := by
  show (x.toModel.unpack.compare y.toModel.unpack == some .eq) = true ↔ _
  exact beq_iff_eq

theorem float_beq_trans {x y z : Float} (hxy : (x == y) = true) (hyz : (y == z) = true) :
    (x == z) = true := by
  rw [float_beq_iff] at hxy hyz ⊢
  rw [← unpacked_compare_congr hyz, hxy]

/-- Equal numbers are above the same numbers. -/
theorem float_lt_congr_right {x y : Float} (h : (x == y) = true) (z : Float) :
    z < x ↔ z < y := by
  rw [float_lt_iff, float_lt_iff, unpacked_compare_congr (float_beq_iff.1 h)]

/-- Equal numbers are below the same numbers. -/
theorem float_lt_congr_left {x y : Float} (h : (x == y) = true) (z : Float) :
    x < z ↔ y < z := by
  rw [float_lt_iff, float_lt_iff, unpacked_compare_swap z.toModel.unpack,
    unpacked_compare_swap z.toModel.unpack, unpacked_compare_congr (float_beq_iff.1 h)]

theorem float_lt_irrefl (x : Float) : ¬ x < x := by
  rw [float_lt_iff]
  intro h
  have hswap := unpacked_compare_swap x.toModel.unpack x.toModel.unpack
  rw [h] at hswap
  cases hswap

theorem float_le_iff {x y : Float} :
    x ≤ y ↔ ∃ o, x.toModel.unpack.compare y.toModel.unpack = some o ∧ o.isLE = true := by
  show decide (x.toModel ≤ y.toModel) = true ↔ _
  rw [decide_eq_true_iff]
  show Option.any Ordering.isLE (x.toModel.unpack.compare y.toModel.unpack) = true ↔ _
  cases x.toModel.unpack.compare y.toModel.unpack <;> simp

theorem exists_compare {a b : UnpackedFloat} (ha : a.isNaN = false) (hb : b.isNaN = false) :
    ∃ o, a.compare b = some o := by
  rcases a with s | _ | s | ⟨s, m, e, hm⟩
  case notANumber => cases ha
  all_goals
    rcases b with t | _ | t | ⟨t, n, f, hn⟩
    case notANumber => cases hb
    all_goals cases s <;> cases t <;> exact ⟨_, rfl⟩

/-- Any two numbers can be compared. -/
theorem float_le_iff_not_lt_of_not_nan {x y : Float} (hx : x.isNaN = false)
    (hy : y.isNaN = false) : x ≤ y ↔ ¬ y < x := by
  obtain ⟨o, ho⟩ := exists_compare (a := y.toModel.unpack) hy hx
  rw [float_le_iff, float_lt_iff, unpacked_compare_swap y.toModel.unpack, ho]
  cases o <;> simp

theorem isNaN_of_isFinite {x : Float} (h : x.isFinite = true) : x.isNaN = false := by
  have hfinite : x.toModel.unpack.isFinite = true := h
  show x.toModel.unpack.isNaN = false
  cases hx : x.toModel.unpack with
  | notANumber =>
    rw [hx] at hfinite
    cases hfinite
  | _ => rfl

theorem float_le_iff_not_lt {x y : Float} (hx : x.isFinite = true) (hy : y.isFinite = true) :
    x ≤ y ↔ ¬ y < x :=
  float_le_iff_not_lt_of_not_nan (isNaN_of_isFinite hx) (isNaN_of_isFinite hy)

/-- What is not a number is below nothing, and nothing is below it. -/
theorem not_float_lt_of_isNaN {x : Float} (h : x.isNaN = true) (y : Float) :
    ¬ x < y ∧ ¬ y < x := by
  have hnan : x.toModel.unpack = .notANumber := by
    have h : x.toModel.unpack.isNaN = true := h
    cases hx : x.toModel.unpack with
    | notANumber => rfl
    | _ =>
      rw [hx] at h
      cases h
  have hnone : x.toModel.unpack.compare y.toModel.unpack = none := by
    rw [hnan]
    rfl
  rw [float_lt_iff, float_lt_iff, unpacked_compare_swap x.toModel.unpack, hnone]
  exact ⟨nofun, nofun⟩

/-! ## Distance -/

theorem abs_zero_or_finite (s t : UnpackedFloat.Sign) (m : Nat) (e : Int) :
    (if h : m = 0 then UnpackedFloat.zero s else .finite s m e (Nat.pos_of_ne_zero h)).abs
      = (if h : m = 0 then UnpackedFloat.zero t else .finite t m e (Nat.pos_of_ne_zero h)).abs := by
  by_cases h : m = 0
  · rw [dif_pos h, dif_pos h]
    rfl
  · rw [dif_neg h, dif_neg h]
    rfl

/-- The sign is all that a rounded number takes from the sign of the exact one. -/
theorem abs_roundWithAccuracy (spec : Format) (s t : UnpackedFloat.Sign) (m : Nat) (e : Int)
    (acc : UnpackedFloat.Accuracy) :
    (UnpackedFloat.roundWithAccuracy spec s m e acc).abs
      = (UnpackedFloat.roundWithAccuracy spec t m e acc).abs := by
  unfold UnpackedFloat.roundWithAccuracy
  exact abs_zero_or_finite ..

theorem abs_normalize_neg (spec : Format) (m e : Int) (s : UnpackedFloat.Sign) :
    (UnpackedFloat.normalize spec (-m) e s).abs = (UnpackedFloat.normalize spec m e s).abs := by
  unfold UnpackedFloat.normalize
  rcases Int.lt_trichotomy m 0 with h | h | h
  · rw [Int.compare_eq_lt.2 h, Int.compare_eq_gt.2 (by omega)]
    exact abs_roundWithAccuracy ..
  · subst h
    rfl
  · rw [Int.compare_eq_gt.2 h, Int.compare_eq_lt.2 (by omega), Int.neg_neg]
    exact abs_roundWithAccuracy ..

theorem abs_normalize_sub (spec : Format) (m n e : Int) (s : UnpackedFloat.Sign) :
    (UnpackedFloat.normalize spec (m - n) e s).abs
      = (UnpackedFloat.normalize spec (n - m) e s).abs := by
  rw [← abs_normalize_neg, Int.neg_sub]

theorem abs_sub_swap (spec : Format) (a b : UnpackedFloat) :
    (a.sub spec b).abs = (b.sub spec a).abs := by
  rcases a with s | _ | s | ⟨s, m, e, hm⟩ <;> rcases b with t | _ | t | ⟨t, n, f, hn⟩
  case finite.finite =>
    refine (abs_normalize_sub ..).trans ?_
    rw [Int.min_comm]
    rfl
  all_goals try cases s
  all_goals try cases t
  all_goals rfl

theorem abs_finite {s t : UnpackedFloat.Sign} {m n : Nat} {e f : Int} {hm : 0 < m} {hn : 0 < n}
    (hmn : m = n) (hef : e = f) :
    (UnpackedFloat.finite s m e hm).abs = (UnpackedFloat.finite t n f hn).abs := by
  subst hmn hef
  rfl

/-- The magnitude of a stored number is in its mantissa and its exponent. -/
theorem abs_unpack_congr {spec : Format} {x y : BitVec spec.numBits}
    (hm : UnpackedFloat.unpackMantissa x = UnpackedFloat.unpackMantissa y)
    (he : UnpackedFloat.unpackExponent x = UnpackedFloat.unpackExponent y) :
    (UnpackedFloat.unpack spec x).abs = (UnpackedFloat.unpack spec y).abs := by
  unfold UnpackedFloat.unpack
  dsimp only
  -- The number holds a proof about its mantissa, so `hm` and `he` cannot be rewritten with.
  by_cases htop : UnpackedFloat.unpackExponent x = -1#_
  · rw [if_pos htop, if_pos (he.symm.trans htop), hm]
    split <;> rfl
  rw [if_neg htop, if_neg fun h => htop (he.trans h)]
  by_cases hlow : UnpackedFloat.unpackExponent x = 0#_
  · rw [if_pos hlow, if_pos (he.symm.trans hlow)]
    by_cases hzero : UnpackedFloat.unpackMantissa x = 0#_
    · rw [dif_pos hzero, dif_pos (hm.symm.trans hzero)]
      rfl
    · rw [dif_neg hzero, dif_neg fun h => hzero (hm.trans h)]
      exact abs_finite (by rw [hm]) (by rw [he])
  · rw [if_neg hlow, if_neg fun h => hlow (he.trans h)]
    exact abs_finite (by rw [hm]) (by rw [he])

theorem abs_unpack_packComponents (spec : Format) (s t : UnpackedFloat.Sign)
    (e : BitVec spec.exponentBits) (m : BitVec spec.mantissaBitsWithoutImplicit) :
    (UnpackedFloat.unpack spec (UnpackedFloat.packComponents spec s e m)).abs
      = (UnpackedFloat.unpack spec (UnpackedFloat.packComponents spec t e m)).abs :=
  abs_unpack_congr
    ((UnpackedFloat.unpackMantissa_packComponents ..).trans
      (UnpackedFloat.unpackMantissa_packComponents ..).symm)
    ((UnpackedFloat.unpackExponent_packComponents ..).trans
      (UnpackedFloat.unpackExponent_packComponents ..).symm)

/-- Storing a number keeps its magnitude apart from its sign. -/
theorem abs_unpack_pack {spec : Format} {a b : UnpackedFloat} (h : a.abs = b.abs) :
    (UnpackedFloat.unpack spec (a.pack spec)).abs
      = (UnpackedFloat.unpack spec (b.pack spec)).abs := by
  rcases a with s | _ | s | ⟨s, m, e, hm⟩ <;> rcases b with t | _ | t | ⟨t, n, f, hn⟩
  case infinity.infinity => exact abs_unpack_packComponents ..
  case notANumber.notANumber => rfl
  case zero.zero => exact abs_unpack_packComponents ..
  case finite.finite =>
    obtain ⟨-, rfl, rfl⟩ := UnpackedFloat.finite.inj h
    unfold UnpackedFloat.pack
    dsimp only
    split
    · exact abs_unpack_packComponents ..
    · split <;> exact abs_unpack_packComponents ..
  all_goals exact UnpackedFloat.noConfusion h

theorem float_abs_sub_comm (x y : Float) : (x - y).abs = (y - x).abs := by
  refine congrArg Float.ofModel (congrArg Float.Model.pack ?_)
  exact abs_unpack_pack (abs_sub_swap _ x.toModel.unpack y.toModel.unpack)

end Ensemble
