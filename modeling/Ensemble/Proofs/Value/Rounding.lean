import Ensemble.Proofs.Value.Units

/-!
# Whole numbers in order

A whole number of at most 64 bits is rounded to the nearest number with 53 leading bits, which is
finite.  Rounding never turns two whole numbers around, it may only make them equal, and it changes
none below 2^53.  So floats that differ are in the order of the whole numbers they come from.
-/

namespace Ensemble

open Float.Model

variable {s : UnpackedFloat.Sign} {u w : UnpackedFloat} {k m n p v x y : Nat} {e : Int}

/-! ## Numbers with 53 bits -/

/-- A finite number whose mantissa has 53 bits.  Its magnitude is counted in units of 2^-52, which
is a whole number unless it is below one. -/
inductive Normal (s : UnpackedFloat.Sign) (v : Nat) : UnpackedFloat → Prop
  | finite {m p : Nat} {hpos : 0 < m} (hlow : 2 ^ 52 ≤ m) (hhigh : m < 2 ^ 53)
    (hv : v = m * 2 ^ p) : Normal s v (.finite s m (p - 52) hpos)

theorem Normal.compare_eq (hu : Normal s v u) (hw : Normal s x w) :
    u.compare w = some (signed s (compare v x)) := by
  cases hu with
  | finite hm hm' hv =>
    cases hw with
    | finite hn hn' hx =>
      rw [hv, hx, ← compare_then_eq (.inr hm) hm' (.inr hn) hn']
      cases s <;> rfl

theorem Normal.sign_eq {t : UnpackedFloat.Sign} (hu : Normal s x u) (hw : Normal t y u) :
    s = t := by
  obtain ⟨m, e, hm, hs⟩ : ∃ m e hm, u = .finite s m e hm := by
    cases hu
    exact ⟨_, _, _, rfl⟩
  obtain ⟨n, f, hn, ht⟩ : ∃ n f hn, u = .finite t n f hn := by
    cases hw
    exact ⟨_, _, _, rfl⟩
  exact (UnpackedFloat.finite.inj (hs.symm.trans ht)).1

theorem Normal.unique (hu : Normal s x u) (hw : Normal s y u) : x = y := by
  have h := (hu.compare_eq hu).symm.trans (hu.compare_eq hw)
  rw [Nat.compare_eq_eq.2 rfl] at h
  cases s with
  | positive => exact Nat.compare_eq_eq.1 (Option.some.inj h).symm
  | negative =>
    have hswap : Ordering.eq.swap = (compare x y).swap := Option.some.inj h
    exact Nat.compare_eq_eq.1 (Ordering.swap_inj.1 hswap).symm

theorem Normal.neg (h : Normal s v u) : Normal (-s) v u.neg := by
  cases h with
  | finite hm hm' hv => exact .finite hm hm' hv

/-- Numbers with 53 bits are stored as they are, far beyond the whole numbers of 64 bits. -/
theorem Normal.stored (h : Normal s v u) (hv : v < 2 ^ 128) : (Float.Model.pack u).unpack = u := by
  cases h with
  | @finite m p hpos hm hm' hmp =>
    have hp : p < 76 := (mul_two_pow_lt_iff (.inr hm) hm' (by decide)).1 (hmp ▸ hv)
    have hexponent : (p : Int) - 52 = (p + 1022 : Nat) - 1074 := by omega
    have hunits : Units s (m * 2 ^ (p + 1022)) (.finite s m ((p + 1022 : Nat) - 1074) hpos) :=
      .finite (.inr hm) hm' rfl
    rw [show UnpackedFloat.finite s m (p - 52) hpos = .finite s m ((p + 1022 : Nat) - 1074) hpos
      from finite_congr rfl rfl hexponent]
    exact hunits.stored ((lt_limit_iff (.inr hm) hm').2 (by omega))

/-- Bits are dropped until 53 are left, if the number is not below one. -/
theorem exists_normal (hbits : 52 ≤ m.log2) (he : -1074 ≤ e) (hp : (m.log2 : Int) + e = p)
    (s : UnpackedFloat.Sign) :
    ∃ r, 2 ^ 52 ≤ r ∧ r ≤ 2 ^ 53
      ∧ Normal s (r * 2 ^ p) (UnpackedFloat.roundWithAccuracy .binary64 s m e .exact)
      ∧ 2 * m ≤ (2 * r + 1) * 2 ^ (m.log2 - 52)
      ∧ 2 * r * 2 ^ (m.log2 - 52) ≤ 2 * m + 2 ^ (m.log2 - 52) := by
  have hrounded := rounded_roundWithAccuracy (m := m) (by rintro rfl; simp at hbits) he s
  generalize UnpackedFloat.roundWithAccuracy .. = u at hrounded
  cases hrounded with
  | @finite n c hn hform hlt hhigh hle hge =>
    have hlow := hform.resolve_left (by omega)
    have hexponent : e + (m.log2 - 52 : Nat) + c = (c + p : Nat) - 52 := by omega
    have hnormal : Normal s (n * 2 ^ c * 2 ^ p) (.finite s n ((c + p : Nat) - 52) hn) :=
      .finite hlow hlt (by rw [Nat.mul_assoc, ← Nat.pow_add])
    refine ⟨n * 2 ^ c, ?_, hhigh, finite_congr rfl rfl hexponent ▸ hnormal, hle, hge⟩
    exact hlow.trans (Nat.le_mul_of_pos_right n (Nat.two_pow_pos c))

/-- A number that is first shifted to the left is rounded to the nearest one. -/
theorem exists_nearest (hn : n ≠ 0) (hk : 52 ≤ n.log2 + k) (hk' : k ≤ 1074)
    (s : UnpackedFloat.Sign) :
    ∃ x, Nearest n x
      ∧ Normal s x (UnpackedFloat.roundWithAccuracy .binary64 s (n * 2 ^ k) (-k) .exact) := by
  have hlog := log2_mul_two_pow hn k
  obtain ⟨r, hlow, hhigh, hnormal, hle, hge⟩ :=
    exists_normal (m := n * 2 ^ k) (e := -k) (p := n.log2) (by omega) (by omega) (by omega) s
  have hplaces : 2 ^ 52 * 2 ^ ((n * 2 ^ k).log2 - 52) = 2 ^ n.log2 * 2 ^ k := by
    rw [← Nat.pow_add, ← Nat.pow_add]
    congr 1
    omega
  have hpos := Nat.two_pow_pos k
  generalize 2 ^ ((n * 2 ^ k).log2 - 52) = place at hle hge hplaces
  refine ⟨r * 2 ^ n.log2, ⟨⟨r, Nat.mul_comm ..⟩, Nat.mul_le_mul_right _ hlow,
    Nat.mul_le_mul_right _ hhigh, ?_, ?_⟩, hnormal⟩
  · refine Nat.le_of_mul_le_mul_right ?_ hpos
    calc 2 * (2 ^ 52 * n) * 2 ^ k = 2 ^ 52 * (2 * (n * 2 ^ k)) := by grind
      _ ≤ 2 ^ 52 * ((2 * r + 1) * place) := Nat.mul_le_mul_left _ hle
      _ = (2 * r + 1) * (2 ^ 52 * place) := Nat.mul_left_comm ..
      _ = (2 * (r * 2 ^ n.log2) + 2 ^ n.log2) * 2 ^ k := by rw [hplaces]; grind
  · refine Nat.le_of_mul_le_mul_right ?_ hpos
    calc 2 * (r * 2 ^ n.log2) * 2 ^ k = 2 * r * (2 ^ 52 * place) := by rw [hplaces]; grind
      _ = 2 ^ 52 * (2 * r * place) := Nat.mul_left_comm ..
      _ ≤ 2 ^ 52 * (2 * (n * 2 ^ k) + place) := Nat.mul_le_mul_left _ hge
      _ = 2 * (2 ^ 52 * n) * 2 ^ k + 2 ^ 52 * place := by grind
      _ = (2 * (2 ^ 52 * n) + 2 ^ n.log2) * 2 ^ k := by rw [hplaces]; grind

/-! ## Floats of whole numbers -/

/-- One is stored as 2^52 units of 2^-52. -/
theorem Normal.mul_one (h : Normal s v u) {hpos : 0 < 2 ^ 52}
    (hw : w = .finite .positive (2 ^ 52) (-52) hpos) :
    Normal s v (UnpackedFloat.mul .binary64 u w) := by
  subst hw
  cases h with
  | @finite m p _ hlow hhigh hv =>
    have hbits : m.log2 = 52 := (Nat.log2_eq_iff (by omega)).2 ⟨hlow, hhigh⟩
    have hlog := log2_mul_two_pow (n := m) (by omega) 52
    rw [hbits] at hlog
    obtain ⟨r, -, -, hnormal, hle, hge⟩ := exists_normal (m := m * 2 ^ 52)
      (e := (p : Int) - 52 + -52) (p := p) (by omega) (by omega) (by omega) s
    rw [hlog] at hle hge
    obtain rfl : r = m := by omega
    rw [hv]
    cases s <;> exact hnormal

/-- A whole number and the unpacked float that is nearest to it. -/
inductive Rounds : Int → UnpackedFloat → Prop
  | zero {s : UnpackedFloat.Sign} : Rounds 0 (.zero s)
  | normal {s : UnpackedFloat.Sign} {n x : Nat} {u : UnpackedFloat} (hx : Nearest n x)
    (hu : Normal s x u) : Rounds (s.apply n) u

theorem rounds_ofNat (h : n < 2 ^ 53) : Rounds n (UnpackedFloat.ofNat .binary64 n) := by
  unfold UnpackedFloat.ofNat UnpackedFloat.ofInt UnpackedFloat.normalize
  rcases Nat.eq_zero_or_pos n with rfl | hpos
  · exact .zero
  rw [Int.compare_eq_gt.2 (by omega)]
  have hlog : n.log2 < 53 := (Nat.log2_lt (by omega)).2 h
  have hplaces : (0 - Format.binary64.targetExponent (totalExponent n 0)).toNat = 52 - n.log2 := by
    have htarget : Format.binary64.targetExponent (totalExponent n 0)
        = max ((n.log2 : Int) + 1 + 0 - 53) (-1074) := rfl
    omega
  obtain ⟨x, hx, hnormal⟩ := exists_nearest (n := n) (k := 52 - n.log2) (by omega) (by omega)
    (by omega) .positive
  refine .normal (s := .positive) hx ?_
  dsimp only [UnpackedFloat.round, UnpackedFloat.decreaseExponent]
  rw [Int.toNat_natCast, hplaces, Nat.shiftLeft_eq, Int.zero_sub]
  exact hnormal

theorem rounds_ofScientific (n : Nat) : Rounds n (UnpackedFloat.ofScientific .binary64 n 0) := by
  unfold UnpackedFloat.ofScientific
  by_cases hzero : n = 0
  · rw [dif_pos hzero, hzero]
    exact .zero
  have hlow : ¬ (0 : Int) < -(2 ^ Format.binary64.exponentBits + (n.log2 : Int)) := by
    have hpow : (2 : Int) ^ Format.binary64.exponentBits = 2048 := rfl
    omega
  rw [dif_neg hzero, if_neg (by decide), if_neg hlow, if_pos (Int.le_refl 0)]
  obtain ⟨x, hx, hnormal⟩ := exists_nearest (n := n) (k := 53) hzero (by omega) (by decide)
    .positive
  have hproduct : n <<< Format.binary64.mantissaBits * 10 ^ (0 : Int).toNat = n * 2 ^ 53 := by
    rw [Nat.shiftLeft_eq]
    exact Nat.mul_one _
  refine .normal (s := .positive) hx ?_
  dsimp only [UnpackedFloat.mul]
  rw [hproduct]
  exact hnormal

theorem Nearest.lt (h : Nearest n x) (hn : n < 2 ^ 64) : x < 2 ^ 128 :=
  calc x ≤ 2 ^ 53 * 2 ^ n.log2 := h.high
    _ ≤ 2 ^ 53 * n := Nat.mul_le_mul_left _ (Nat.log2_self_le (by have := h.pos; omega))
    _ < 2 ^ 128 := by omega

theorem Rounds.unpack_pack {n : Int} (h : Rounds n u) (hn : n.natAbs < 2 ^ 64) :
    (Float.Model.pack u).unpack = u := by
  cases h with
  | @zero s => cases s <;> rfl
  | normal hx hu =>
    rw [natAbs_apply] at hn
    exact hu.stored (hx.lt hn)

theorem Rounds.stored {n : Int} (h : Rounds n u) (hn : n.natAbs < 2 ^ 64) :
    Rounds n (Float.Model.pack u).unpack := by
  rw [h.unpack_pack hn]
  exact h

theorem Rounds.mul_one {n : Int} (h : Rounds n u) {hpos : 0 < 2 ^ 52}
    (hw : w = .finite .positive (2 ^ 52) (-52) hpos) :
    Rounds n (UnpackedFloat.mul .binary64 u w) := by
  cases h with
  | zero =>
    subst hw
    exact .zero
  | normal hx hu => exact .normal hx (hu.mul_one hw)

theorem rounds_float_ofNat (h : n < 2 ^ 64) : Rounds n (Float.ofNat n).toModel.unpack := by
  show Rounds n (Float.ofScientific n false 0).toModel.unpack
  unfold Float.ofScientific
  split
  · rename_i hsmall
    have hword : n.toUInt64.toNat = n := Nat.mod_eq_of_lt h
    have hofNat : Rounds n (UnpackedFloat.ofNat .binary64 n.toUInt64.toNat) := by
      rw [hword]
      exact rounds_ofNat hsmall.1
    have hfactor : Rounds n n.toUInt64.toFloat.toModel.unpack := hofNat.stored (by omega)
    have hone : Float.exactlyRepresentablePowersOfTen[0].toModel.unpack
        = .finite .positive (2 ^ 52) (-52) (by decide) := rfl
    exact (hfactor.mul_one hone).stored (by omega)
  · exact (rounds_ofScientific n).stored (by omega)

theorem Rounds.neg {n : Int} (h : Rounds n u) : Rounds (-n) u.neg := by
  cases h with
  | zero => exact .zero
  | normal hx hu =>
    rw [← apply_neg]
    exact .normal hx hu.neg

theorem rounds_float_ofInt {n : Int} (h : n.natAbs < 2 ^ 64) :
    Rounds n (Float.ofInt n).toModel.unpack := by
  cases n with
  | ofNat n => exact rounds_float_ofNat h
  | negSucc n => exact (rounds_float_ofNat (n := n + 1) h).neg.stored (by omega)

theorem Rounds.isFinite {n : Int} (h : Rounds n u) : u.isFinite = true := by
  cases h with
  | zero => rfl
  | normal hx hu =>
    cases hu
    rfl

/-- A whole number of at most 64 bits, with a sign, is rounded to a finite float. -/
theorem isFinite_ofInt {n : Int} (h : n.natAbs < 2 ^ 64) : (Float.ofInt n).isFinite = true :=
  (rounds_float_ofInt h).isFinite

theorem natAbs_toInt_lt (n : Int64) : n.toInt.natAbs < 2 ^ 64 := by
  have hlow := n.le_toInt
  have hhigh := n.toInt_lt
  omega

/-! ## Order -/

theorem compare_ne_gt (h : x ≤ y) : compare x y = .lt ∨ compare x y = .eq := by
  rcases Nat.lt_or_eq_of_le h with h | rfl
  · exact .inl (Nat.compare_eq_lt.2 h)
  · exact .inr (Nat.compare_eq_eq.2 rfl)

/-- The number nearest to a smaller one is smaller or equal. -/
theorem Rounds.compare_of_lt {n m : Int} (hn : Rounds n u) (hm : Rounds m w) (h : n < m) :
    u.compare w = some .lt ∨ u.compare w = some .eq := by
  cases hn with
  | zero =>
    cases hm with
    | zero => exact absurd h (Int.lt_irrefl 0)
    | @normal t m y w hy hw =>
      cases t
      case negative => exact absurd h (by simp [UnpackedFloat.Sign.apply])
      case positive =>
        cases hw
        exact .inl rfl
  | @normal s n x u hx hu =>
    cases hm with
    | zero =>
      cases s
      case positive => exact absurd h (by simp [UnpackedFloat.Sign.apply])
      case negative =>
        cases hu
        exact .inl rfl
    | @normal t m y w hy hw =>
      cases s <;> cases t
      case positive.positive =>
        rw [hu.compare_eq hw]
        have hle := hx.le_of_lt hy (by simpa [UnpackedFloat.Sign.apply] using h)
        exact (compare_ne_gt hle).imp (congrArg some) (congrArg some)
      case negative.negative =>
        have hle := hy.le_of_lt hx (by simpa [UnpackedFloat.Sign.apply] using h)
        rw [hu.compare_eq hw, signed, ← Std.OrientedCmp.eq_swap]
        exact (compare_ne_gt hle).imp (congrArg some) (congrArg some)
      case negative.positive =>
        cases hu
        cases hw
        exact .inl rfl
      case positive.negative =>
        have hlt : (n : Int) < -m := h
        omega

/-- Up to 53 bits different numbers stay different. -/
theorem Rounds.unique {n m : Int} (hn : Rounds n u) (hm : Rounds m u) (h : n.natAbs < 2 ^ 53) :
    n = m := by
  cases hn with
  | zero =>
    cases hm with
    | zero => rfl
    | normal hy hw => cases hw
  | normal hx hu =>
    rw [natAbs_apply] at h
    cases hm with
    | zero => cases hu
    | normal hy hw =>
      obtain rfl := hu.sign_eq hw
      obtain rfl := hu.unique hw
      rw [hx.unique hy h]

theorem Rounds.eq_zero {n : Int} {s : UnpackedFloat.Sign} (h : Rounds n (.zero s)) : n = 0 := by
  cases h with
  | zero => rfl
  | normal hx hu => cases hu

/-- Floats of whole numbers are in the order of these, except where they coincide. -/
theorem float_ofInt_lt_iff {n m : Int} (hn : n.natAbs < 2 ^ 64) (hm : m.natAbs < 2 ^ 64) :
    Float.ofInt n < Float.ofInt m ↔ n < m ∧ Float.ofInt n ≠ Float.ofInt m := by
  have hrounds := rounds_float_ofInt hn
  have hrounds' := rounds_float_ofInt hm
  constructor
  · intro hlt
    refine ⟨?_, fun h => float_lt_irrefl _ (h ▸ hlt)⟩
    rcases Int.lt_trichotomy n m with h | rfl | h
    · exact h
    · exact absurd hlt (float_lt_irrefl _)
    · -- The larger number would be rounded to a smaller float.
      have hswap := unpacked_compare_swap (Float.ofInt n).toModel.unpack
        (Float.ofInt m).toModel.unpack
      rw [float_lt_iff.1 hlt] at hswap
      rcases hrounds'.compare_of_lt hrounds h with h | h
      all_goals
        rw [h] at hswap
        cases hswap
  · rintro ⟨h, hne⟩
    rw [float_lt_iff]
    refine (hrounds.compare_of_lt hrounds' h).resolve_right fun heq => ?_
    obtain hsame | ⟨s, t, hs, ht⟩ := unpacked_eq_or_zero heq
    · exact hne (float_eq_of_unpack hsame)
    · rw [hs] at hrounds
      rw [ht] at hrounds'
      rw [hrounds.eq_zero, hrounds'.eq_zero] at h
      exact absurd h (Int.lt_irrefl 0)

/-- Whole numbers that are rounded to one float are the same, unless both are beyond 2^53. -/
theorem eq_or_large_of_float_ofInt {n m : Int} (hn : n.natAbs < 2 ^ 64) (hm : m.natAbs < 2 ^ 64)
    (h : Float.ofInt n = Float.ofInt m) : n = m ∨ 2 ^ 53 ≤ n.natAbs ∧ 2 ^ 53 ≤ m.natAbs := by
  have hrounds := rounds_float_ofInt hn
  have hrounds' := rounds_float_ofInt hm
  rw [← h] at hrounds'
  rcases Nat.lt_or_ge n.natAbs (2 ^ 53) with hsmall | hlarge
  · exact .inl (hrounds.unique hrounds' hsmall)
  · rcases Nat.lt_or_ge m.natAbs (2 ^ 53) with hsmall | hlarge'
    · exact .inl (hrounds'.unique hrounds hsmall).symm
    · exact .inr ⟨hlarge, hlarge'⟩

end Ensemble
