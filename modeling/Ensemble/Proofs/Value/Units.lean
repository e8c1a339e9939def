import Ensemble.Proofs.Value.Packing

/-!
# Rounding in units

Every finite float is a whole number of units of 2^-1074, and in the order of that number.  A whole
number of units is rounded to the nearest one with 53 leading bits, however it was split into a
mantissa and an exponent, and rounding never turns two of them around.
-/

namespace Ensemble

open Float.Model

variable {em : UnpackedFloat.ExtendedMantissa} {s : UnpackedFloat.Sign} {u w : UnpackedFloat}
  {d k m n p q v x y : Nat} {e : Int}

/-! ## Dropping bits -/

/-- Between which halves of its last place a number lies, of which the last `k` bits are dropped. -/
def Approximates (em : UnpackedFloat.ExtendedMantissa) (k n : Nat) : Prop :=
  match em.accuracy with
  | .exact => n = em.mantissa * 2 ^ k
  | .inexact .lt => em.mantissa * 2 ^ k < n ∧ 2 * n < (2 * em.mantissa + 1) * 2 ^ k
  | .inexact .eq => 2 * n = (2 * em.mantissa + 1) * 2 ^ k
  | .inexact .gt => (2 * em.mantissa + 1) * 2 ^ k < 2 * n ∧ n < (em.mantissa + 1) * 2 ^ k

/-- The round bit joins the sticky bits, and the last bit of the mantissa becomes the round bit. -/
theorem Approximates.shiftRightOne (h : Approximates em k n) :
    Approximates em.shiftRightOne (k + 1) n := by
  obtain ⟨m, roundBit, stickyBit⟩ := em
  have hpos := Nat.two_pow_pos k
  obtain ⟨q, hm⟩ := m.even_or_odd'
  have hhalf : 2 * q / 2 = q ∧ (2 * q + 1) / 2 = q := by omega
  have hlast : (2 * q % 2 != 0) = false ∧ ((2 * q + 1) % 2 != 0) = true := by simp
  -- The bits that are left over say in which half of the new last place the number lies.
  rcases hm with rfl | rfl <;> cases roundBit <;> cases stickyBit
  all_goals
    simp only [Approximates, UnpackedFloat.ExtendedMantissa.shiftRightOne,
      UnpackedFloat.ExtendedMantissa.accuracy, hhalf, hlast, Bool.or_false, Bool.or_true,
      Nat.pow_succ] at h ⊢
    grind

theorem approximates_shiftRight (n k : Nat) :
    Approximates (UnpackedFloat.ExtendedMantissa.ofMantissaAndAccuracy n .exact >>> k) k n := by
  induction k with
  | zero => exact (Nat.mul_one n).symm
  | succ k ih => exact ih.shiftRightOne

/-- Rounding is wrong by half of the last place at most. -/
theorem Approximates.rounded (h : Approximates em k n) :
    2 * n ≤ (2 * em.roundedMantissa + 1) * 2 ^ k
      ∧ 2 * em.roundedMantissa * 2 ^ k ≤ 2 * n + 2 ^ k := by
  obtain ⟨m, roundBit, stickyBit⟩ := em
  have hpos := Nat.two_pow_pos k
  rcases Nat.mod_two_eq_zero_or_one m with heven | hodd <;> cases roundBit <;> cases stickyBit
  all_goals
    simp only [Approximates, UnpackedFloat.ExtendedMantissa.roundedMantissa,
      UnpackedFloat.ExtendedMantissa.accuracy, UnpackedFloat.Accuracy.roundToNearestEven] at h ⊢
    grind

/-- Bits that are all zero are dropped without a trace. -/
theorem shiftRight_mul_two_pow (m j k : Nat) :
    UnpackedFloat.ExtendedMantissa.ofMantissaAndAccuracy (m * 2 ^ j) .exact >>> (j + k)
      = UnpackedFloat.ExtendedMantissa.ofMantissaAndAccuracy m .exact >>> k := by
  induction k with
  | zero =>
    induction j generalizing m with
    | zero => rw [Nat.pow_zero, Nat.mul_one]
    | succ j ih =>
      have hdouble : m * 2 ^ (j + 1) = 2 * m * 2 ^ j := by
        rw [Nat.pow_succ, ← Nat.mul_assoc, Nat.mul_comm, ← Nat.mul_assoc]
      rw [hdouble]
      show UnpackedFloat.ExtendedMantissa.shiftRightOne
        (UnpackedFloat.ExtendedMantissa.ofMantissaAndAccuracy (2 * m * 2 ^ j) .exact >>> (j + 0)) = _
      rw [ih]
      show UnpackedFloat.ExtendedMantissa.mk (2 * m / 2) (2 * m % 2 != 0) false = ⟨m, false, false⟩
      rw [Nat.mul_div_cancel_left m (by decide), Nat.mul_mod_right]
      rfl
  | succ k ih => exact congrArg UnpackedFloat.ExtendedMantissa.shiftRightOne ih

/-! ## Finite numbers -/

/-- A finite number of so many units of 2^-1074.  Its mantissa has 53 bits, or its exponent is the
least one. -/
inductive Units (s : UnpackedFloat.Sign) (v : Nat) : UnpackedFloat → Prop
  | finite {m p : Nat} {hpos : 0 < m} (hlow : p = 0 ∨ 2 ^ 52 ≤ m) (hhigh : m < 2 ^ 53)
    (hv : v = m * 2 ^ p) : Units s v (.finite s m (p - 1074) hpos)

/-- The exponent decides first. -/
theorem mul_two_pow_lt {q : Nat} (hm : m < 2 ^ 53) (hn : 2 ^ 52 ≤ n) (h : p < q) :
    m * 2 ^ p < n * 2 ^ q :=
  calc m * 2 ^ p < 2 ^ 53 * 2 ^ p := Nat.mul_lt_mul_of_pos_right hm (Nat.two_pow_pos p)
    _ = 2 ^ 52 * 2 ^ (p + 1) := by rw [Nat.pow_succ 2 p]; omega
    _ ≤ n * 2 ^ q := Nat.mul_le_mul hn (Nat.pow_le_pow_right (by decide) h)

/-- Mantissas are compared where the exponents agree, which then are in the order of the numbers. -/
theorem compare_then_eq {b : Int} (hm : p = 0 ∨ 2 ^ 52 ≤ m) (hm' : m < 2 ^ 53)
    (hn : q = 0 ∨ 2 ^ 52 ≤ n) (hn' : n < 2 ^ 53) :
    (compare ((p : Int) - b) ((q : Int) - b)).then (compare m n)
      = compare (m * 2 ^ p) (n * 2 ^ q) := by
  rcases Nat.lt_trichotomy p q with h | rfl | h
  · have hlt := mul_two_pow_lt hm' (hn.resolve_left (by omega)) h
    rw [Int.compare_eq_lt.2 (by omega), Nat.compare_eq_lt.2 hlt]
    rfl
  · rw [Int.compare_eq_eq.2 rfl]
    show compare m n = _
    have hpos := Nat.two_pow_pos p
    rcases Nat.lt_trichotomy m n with h | rfl | h
    · rw [Nat.compare_eq_lt.2 h, Nat.compare_eq_lt.2 (Nat.mul_lt_mul_of_pos_right h hpos)]
    · rw [Nat.compare_eq_eq.2 rfl, Nat.compare_eq_eq.2 rfl]
    · rw [Nat.compare_eq_gt.2 h, Nat.compare_eq_gt.2 (Nat.mul_lt_mul_of_pos_right h hpos)]
  · have hlt := mul_two_pow_lt hn' (hm.resolve_left (by omega)) h
    rw [Int.compare_eq_gt.2 (by omega), Nat.compare_eq_gt.2 hlt]
    rfl

/-- The order of two numbers of one sign, from that of their magnitudes. -/
def signed : UnpackedFloat.Sign → Ordering → Ordering
  | .positive, o => o
  | .negative, o => o.swap

theorem Units.compare_eq (hu : Units s v u) (hw : Units s x w) :
    u.compare w = some (signed s (compare v x)) := by
  cases hu with
  | finite hm hm' hv =>
    cases hw with
    | finite hn hn' hx =>
      rw [hv, hx, ← compare_then_eq hm hm' hn hn']
      cases s <;> rfl

theorem Units.pos (h : Units s v u) : 0 < v := by
  cases h with
  | @finite m p hpos _ _ hv =>
    rw [hv]
    exact Nat.mul_pos hpos (Nat.two_pow_pos p)

theorem Units.abs (h : Units s v u) : Units .positive v u.abs := by
  cases h with
  | finite hlow hhigh hv => exact .finite hlow hhigh hv

theorem Units.neg (h : Units s v u) : Units (-s) v u.neg := by
  cases h with
  | finite hlow hhigh hv => exact .finite hlow hhigh hv

theorem natAbs_apply (s : UnpackedFloat.Sign) (n : Nat) : (s.apply n).natAbs = n := by
  cases s
  · exact Int.natAbs_neg n
  · rfl

theorem apply_neg (s : UnpackedFloat.Sign) (n : Int) : (-s).apply n = -s.apply n := by
  cases s
  · exact (Int.neg_neg n).symm
  · rfl

/-! ## Storing -/

theorem finite_congr {s t : UnpackedFloat.Sign} {m n : Nat} {e f : Int} {hm : 0 < m} {hn : 0 < n}
    (hst : s = t) (hmn : m = n) (hef : e = f) :
    UnpackedFloat.finite s m e hm = .finite t n f hn := by
  subst hst hmn hef
  rfl

theorem unpack_packComponents {e : BitVec 11} {t : BitVec 52} (hpos : 0 < 2 ^ 52 + t.toNat)
    (he : e ≠ 0#11) (he' : e ≠ -1#11) :
    UnpackedFloat.unpack .binary64 (UnpackedFloat.packComponents .binary64 s e t)
      = .finite s (2 ^ 52 + t.toNat) (e.toNat - 1075) hpos := by
  have hexponent : UnpackedFloat.unpackExponent
      (UnpackedFloat.packComponents .binary64 s e t) = e :=
    UnpackedFloat.unpackExponent_packComponents
  have hmantissa : UnpackedFloat.unpackMantissa
      (UnpackedFloat.packComponents .binary64 s e t) = t :=
    UnpackedFloat.unpackMantissa_packComponents
  unfold UnpackedFloat.unpack
  dsimp only
  rw [if_neg (fun h => he' (hexponent.symm.trans h)), if_neg (fun h => he (hexponent.symm.trans h))]
  refine finite_congr (sign_packComponents ..) ?_ ?_
  · rw [hmantissa]
    exact toNat_leadingOne t
  · rw [hexponent]
    rfl

theorem unpack_subnormal {t : BitVec 52} (hpos : 0 < t.toNat) :
    UnpackedFloat.unpack .binary64 (UnpackedFloat.packComponents .binary64 s 0#11 t)
      = .finite s t.toNat (-1074) hpos := by
  have hexponent : UnpackedFloat.unpackExponent
      (UnpackedFloat.packComponents .binary64 s 0#11 t) = 0#11 :=
    UnpackedFloat.unpackExponent_packComponents
  have hmantissa : UnpackedFloat.unpackMantissa
      (UnpackedFloat.packComponents .binary64 s 0#11 t) = t :=
    UnpackedFloat.unpackMantissa_packComponents
  have hzero : t ≠ 0#52 := fun h => by simp [h] at hpos
  unfold UnpackedFloat.unpack
  dsimp only
  rw [if_neg (fun h => absurd (hexponent.symm.trans h) (by decide)), if_pos hexponent,
    dif_neg fun h => hzero (hmantissa.symm.trans h)]
  refine finite_congr (sign_packComponents ..) (congrArg BitVec.toNat hmantissa) ?_
  rw [hexponent]
  rfl

/-- So many units are too large for a float. -/
@[irreducible] def limit : Nat := 2 ^ 52 * 2 ^ 2046

theorem mul_two_pow_lt_iff (hlow : p = 0 ∨ 2 ^ 52 ≤ m) (hhigh : m < 2 ^ 53) (hq : q ≠ 0) :
    m * 2 ^ p < 2 ^ 52 * 2 ^ q ↔ p < q := by
  constructor
  · intro h
    by_contra hp
    have hpow := Nat.pow_le_pow_right (n := 2) (by decide) (Nat.not_lt.1 hp)
    exact absurd h (Nat.not_lt.2 (Nat.mul_le_mul (hlow.resolve_left (by omega)) hpow))
  · exact mul_two_pow_lt hhigh (Nat.le_refl _)

theorem lt_limit_iff (hlow : p = 0 ∨ 2 ^ 52 ≤ m) (hhigh : m < 2 ^ 53) :
    m * 2 ^ p < limit ↔ p < 2046 := by
  unfold limit
  exact mul_two_pow_lt_iff hlow hhigh (by decide)

/-- A finite number is stored as it is, unless it is too large. -/
theorem Units.stored (h : Units s v u) (hv : v < limit) : (Float.Model.pack u).unpack = u := by
  cases h with
  | @finite m p hpos hlow hhigh hmp =>
    show UnpackedFloat.unpack .binary64 (UnpackedFloat.pack .binary64 _) = _
    rcases Nat.lt_or_ge m (2 ^ 52) with hm | hm
    · obtain rfl := hlow.resolve_right (by omega)
      have hmantissa : (BitVec.ofNat 52 m).toNat = m := by
        rw [BitVec.toNat_ofNat, Nat.mod_eq_of_lt hm]
      refine (congrArg (UnpackedFloat.unpack .binary64) (pack_subnormal hpos hm)).trans ?_
      rw [unpack_subnormal (by omega)]
      exact finite_congr rfl hmantissa rfl
    · have hp : p < 2046 := (lt_limit_iff hlow hhigh).1 (hmp ▸ hv)
      have hexponent : (BitVec.ofNat 11 (p + 1)).toNat = p + 1 := by
        rw [BitVec.toNat_ofNat, Nat.mod_eq_of_lt (by omega)]
      have hmantissa : 2 ^ 52 + (BitVec.ofNat 52 m).toNat = m := by
        rw [BitVec.toNat_ofNat]
        omega
      have hpack : UnpackedFloat.pack .binary64 (.finite s m (p - 1074) hpos)
          = UnpackedFloat.packComponents .binary64 s (.ofNat 11 (p + 1)) (.ofNat 52 m) :=
        pack_normal hpos hm hhigh (by omega) (by omega)
      rw [hpack, unpack_packComponents (by omega)]
      · exact finite_congr rfl hmantissa (by rw [hexponent]; omega)
      · exact fun h => absurd (congrArg BitVec.toNat h) (by rw [hexponent]; simp)
      · refine fun h => absurd (congrArg BitVec.toNat h) ?_
        rw [hexponent]
        show p + 1 ≠ 2047
        omega

theorem Units.overflows (h : Units s v u) (hv : limit ≤ v) :
    (Float.Model.pack u).unpack = .infinity s := by
  cases h with
  | @finite m p hpos hlow hhigh hmp =>
    have hp : 2046 ≤ p := by
      rw [hmp, ← Nat.not_lt, lt_limit_iff hlow hhigh] at hv
      omega
    have hbiased : ((p : Int) - 1074 + Format.binary64.exponentBias
        + Format.binary64.mantissaBitsWithoutImplicit).toNat = p + 1 := by
      show ((p : Int) - 1074 + 1023 + 52).toNat = p + 1
      omega
    have hpack : UnpackedFloat.pack .binary64 (.finite s m (p - 1074) hpos)
        = UnpackedFloat.packedInfinity .binary64 s := by
      unfold UnpackedFloat.pack
      dsimp only
      rw [hbiased, if_pos (by show 2 ^ 11 ≤ p + 1 + 1; omega)]
    show UnpackedFloat.unpack .binary64 (UnpackedFloat.pack .binary64 _) = _
    rw [hpack]
    cases s <;> rfl

/-- A stored finite number is a number of units. -/
theorem exists_units_of_unpack {b : BitVec Format.binary64.numBits} (hb : Format.binary64.Valid b)
    {hm : 0 < m} (h : UnpackedFloat.unpack .binary64 b = .finite s m e hm) :
    ∃ v, v < limit ∧ Units s v (.finite s m e hm) := by
  have hexponent : (UnpackedFloat.unpackExponent b).toNat < 2 ^ 11 :=
    (UnpackedFloat.unpackExponent b).isLt
  have hmantissa : (UnpackedFloat.unpackMantissa b).toNat < 2 ^ 52 :=
    (UnpackedFloat.unpackMantissa b).isLt
  have hform : ∀ p : Nat, e = p - 1074 → (p = 0 ∨ 2 ^ 52 ≤ m) → m < 2 ^ 53 → p < 2046 →
      ∃ v, v < limit ∧ Units s v (.finite s m e hm) := by
    rintro p rfl hlow hhigh hp
    exact ⟨m * 2 ^ p, (lt_limit_iff hlow hhigh).2 hp, .finite hlow hhigh rfl⟩
  cases stored_unpack hb with
  | subnormal he hpos hu =>
    obtain ⟨-, rfl, rfl⟩ := UnpackedFloat.finite.inj (h.symm.trans hu)
    exact hform 0 (by rw [he]; rfl) (.inl rfl) (by omega) (by decide)
  | normal he he' hpos hu =>
    obtain ⟨-, rfl, rfl⟩ := UnpackedFloat.finite.inj (h.symm.trans hu)
    have hleading : (1#1 ++ UnpackedFloat.unpackMantissa b).toNat
        = 2 ^ 52 + (UnpackedFloat.unpackMantissa b).toNat := toNat_leadingOne _
    have hbottom : (UnpackedFloat.unpackExponent b).toNat ≠ 0 := fun h =>
      he (BitVec.eq_of_toNat_eq h)
    have htop : (UnpackedFloat.unpackExponent b).toNat ≠ 2047 := fun h =>
      he' (BitVec.eq_of_toNat_eq h)
    refine hform ((UnpackedFloat.unpackExponent b).toNat - 1) ?_ (.inr (by omega)) (by omega)
      (by omega)
    show ((UnpackedFloat.unpackExponent b).toNat : Int) - 1075 = _
    omega
  | _ =>
    rename_i hu
    cases h.symm.trans hu

/-! ## Dropping all bits but 53 -/

/-- The bits after the first 53 are dropped, if the exponent is not too small. -/
theorem shiftToTargetExponent_eq (he : -1074 ≤ e) :
    UnpackedFloat.shiftToTargetExponent .binary64 m e .exact
      = (UnpackedFloat.ExtendedMantissa.ofMantissaAndAccuracy m .exact >>> (m.log2 - 52),
          e + (m.log2 - 52 : Nat)) := by
  have htarget : Format.binary64.targetExponent (totalExponent m e)
      = max ((m.log2 : Int) + 1 + e - 53) (-1074) := rfl
  have hamount : (Format.binary64.targetExponent (totalExponent m e) - e).toNat
      = m.log2 - 52 := by omega
  unfold UnpackedFloat.shiftToTargetExponent UnpackedFloat.shiftToExponent
  dsimp only
  rw [hamount]

/-- A rounded mantissa stays, unless it is 2^53: then another bit is dropped. -/
theorem exists_finite_of_rounded (hpos : 0 < m) (hhigh : m ≤ 2 ^ 53) (he : -1074 ≤ e)
    (s : UnpackedFloat.Sign) :
    let last := UnpackedFloat.shiftToTargetExponent .binary64 m e .exact
    ∃ n c, ∃ hn : 0 < n, m = n * 2 ^ c ∧ n < 2 ^ 53 ∧ (c = 0 ∨ n = 2 ^ 52) ∧
      (if h : last.1.mantissa = 0 then UnpackedFloat.zero s
        else .finite s last.1.mantissa last.2 (Nat.pos_of_ne_zero h))
          = .finite s n (e + (c : Nat)) hn := by
  rw [shiftToTargetExponent_eq he]
  rcases Nat.lt_or_eq_of_le hhigh with hlt | rfl
  · have hbits : m.log2 - 52 = 0 := by
      have hlog := (Nat.log2_lt (by omega)).2 hlt
      omega
    rw [hbits]
    refine ⟨m, 0, hpos, (Nat.mul_one m).symm, hlt, .inl rfl, ?_⟩
    exact dif_neg (Nat.pos_iff_ne_zero.1 hpos)
  · rw [Nat.log2_two_pow]
    exact ⟨2 ^ 52, 1, by decide, by decide, by decide, .inr rfl, rfl⟩

/-- What a mantissa and an exponent are rounded to: the mantissa differs by half of the last place
at most from what is left. -/
inductive Rounded (s : UnpackedFloat.Sign) (m : Nat) (e : Int) : UnpackedFloat → Prop
  | finite {n c : Nat} {hn : 0 < n} (hform : m.log2 < 52 ∧ c = 0 ∨ 2 ^ 52 ≤ n) (hlt : n < 2 ^ 53)
    (hhigh : n * 2 ^ c ≤ 2 ^ 53)
    (hle : 2 * m ≤ (2 * (n * 2 ^ c) + 1) * 2 ^ (m.log2 - 52))
    (hge : 2 * (n * 2 ^ c) * 2 ^ (m.log2 - 52) ≤ 2 * m + 2 ^ (m.log2 - 52)) :
    Rounded s m e (.finite s n (e + (m.log2 - 52 : Nat) + (c : Nat)) hn)

theorem rounded_roundWithAccuracy (hm : m ≠ 0) (he : -1074 ≤ e) (s : UnpackedFloat.Sign) :
    Rounded s m e (UnpackedFloat.roundWithAccuracy .binary64 s m e .exact) := by
  have happrox := (approximates_shiftRight m (m.log2 - 52)).rounded
  unfold UnpackedFloat.roundWithAccuracy
  rw [shiftToTargetExponent_eq he]
  dsimp only
  generalize (UnpackedFloat.ExtendedMantissa.ofMantissaAndAccuracy m .exact
    >>> (m.log2 - 52)).roundedMantissa = r at happrox
  obtain ⟨hle, hge⟩ := happrox
  have hplace := Nat.two_pow_pos (m.log2 - 52)
  have hbound : m < 2 ^ 53 * 2 ^ (m.log2 - 52) := by
    rw [← Nat.pow_add]
    exact Nat.lt_of_lt_of_le Nat.lt_log2_self (Nat.pow_le_pow_right (by decide) (by omega))
  have hhigh : r ≤ 2 ^ 53 := by
    have h : 2 * r * 2 ^ (m.log2 - 52) < (2 ^ 54 + 1) * 2 ^ (m.log2 - 52) := by omega
    have := Nat.lt_of_mul_lt_mul_right h
    omega
  have hlow : m.log2 < 52 ∧ r = m ∨ 2 ^ 52 ≤ r := by
    rcases Nat.lt_or_ge m.log2 52 with hlog | hlog
    · rw [show m.log2 - 52 = 0 by omega] at hle hge
      exact .inl ⟨hlog, by omega⟩
    · have hm' : 2 ^ 52 * 2 ^ (m.log2 - 52) ≤ m := by
        rw [← Nat.pow_add, Nat.add_sub_cancel' hlog]
        exact Nat.log2_self_le hm
      have h : 2 ^ 53 * 2 ^ (m.log2 - 52) ≤ (2 * r + 1) * 2 ^ (m.log2 - 52) := by omega
      have := Nat.le_of_mul_le_mul_right h hplace
      exact .inr (by omega)
  obtain ⟨n, c, hn, rfl, hlt, hc, heq⟩ := exists_finite_of_rounded (m := r)
    (e := e + (m.log2 - 52 : Nat)) (by omega) hhigh (by omega) s
  rw [heq]
  refine .finite ?_ hlt hhigh hle hge
  rcases hlow with ⟨hlog, hr⟩ | hlow
  · have hm' : m < 2 ^ 52 := (Nat.log2_lt hm).1 hlog
    refine .inl ⟨hlog, hc.resolve_right ?_⟩
    rintro rfl
    have := Nat.le_mul_of_pos_right (2 ^ 52) (Nat.two_pow_pos c)
    omega
  · rcases hc with rfl | rfl
    · exact .inr (by omega)
    · exact .inr (Nat.le_refl _)

/-! ## The nearest number -/

/-- A number with 53 bits, in units of 2^-52, that is at most half of its last place away. -/
structure Nearest (n x : Nat) : Prop where
  multiple : 2 ^ n.log2 ∣ x
  low : 2 ^ 52 * 2 ^ n.log2 ≤ x
  high : x ≤ 2 ^ 53 * 2 ^ n.log2
  le : 2 * (2 ^ 52 * n) ≤ 2 * x + 2 ^ n.log2
  ge : 2 * x ≤ 2 * (2 ^ 52 * n) + 2 ^ n.log2

theorem Nearest.pos (h : Nearest n x) : 0 < n := by
  rcases Nat.eq_zero_or_pos n with rfl | hpos
  · have hlow := h.low
    have hge := h.ge
    simp at hlow hge
    omega
  · exact hpos

/-- Rounding turns no numbers around. -/
theorem Nearest.le_of_lt (hx : Nearest n x) (hy : Nearest m y) (h : n < m) : x ≤ y := by
  have hlog : n.log2 ≤ m.log2 := by
    rw [Nat.le_log2 (by omega)]
    exact Nat.le_trans (Nat.log2_self_le (by have := hx.pos; omega)) (by omega)
  rcases Nat.lt_or_eq_of_le hlog with hlt | heq
  · calc x ≤ 2 ^ 53 * 2 ^ n.log2 := hx.high
      _ = 2 ^ 52 * 2 ^ (n.log2 + 1) := by rw [Nat.pow_succ 2 n.log2]; omega
      _ ≤ 2 ^ 52 * 2 ^ m.log2 := Nat.mul_le_mul_left _ (Nat.pow_le_pow_right (by decide) hlt)
      _ ≤ y := hy.low
  · -- Both are multiples of one last place, and less than that apart the wrong way.
    obtain ⟨a, ha⟩ := hx.multiple
    obtain ⟨b, hb⟩ := hy.multiple
    have hge := hx.ge
    have hle := hy.le
    rw [← heq] at hb hle
    by_contra hlt
    have hab : b < a := by
      by_contra hba
      exact hlt (by rw [ha, hb]; exact Nat.mul_le_mul_left _ (by omega))
    have hstep : 2 ^ n.log2 * (b + 1) ≤ 2 ^ n.log2 * a := Nat.mul_le_mul_left _ hab
    rw [Nat.mul_succ] at hstep
    omega

/-- Up to 53 bits nothing is rounded. -/
theorem Nearest.eq_of_lt (hx : Nearest n x) (hn : n < 2 ^ 53) : x = 2 ^ 52 * n := by
  have hlog : n.log2 ≤ 52 := by
    have := (Nat.log2_lt (by have := hx.pos; omega)).2 hn
    omega
  have hpow : (2 : Nat) ^ 52 = 2 ^ n.log2 * 2 ^ (52 - n.log2) := by
    rw [← Nat.pow_add, Nat.add_sub_cancel' hlog]
  obtain ⟨a, ha⟩ := hx.multiple
  have hle := hx.le
  have hge := hx.ge
  rw [hpow, Nat.mul_assoc, ha] at hle hge ⊢
  generalize 2 ^ (52 - n.log2) * n = b at hle hge ⊢
  have hpos := Nat.two_pow_pos n.log2
  generalize 2 ^ n.log2 = place at hle hge hpos ⊢
  have hba : place * (2 * b) ≤ place * (2 * a + 1) := by grind
  have hab : place * (2 * a) ≤ place * (2 * b + 1) := by grind
  have hba := Nat.le_of_mul_le_mul_left hba hpos
  have hab := Nat.le_of_mul_le_mul_left hab hpos
  rw [show a = b by omega]

/-- A number up to 53 bits is rounded to what no other one is rounded to. -/
theorem Nearest.unique (hx : Nearest n x) (hy : Nearest m x) (hn : n < 2 ^ 53) : n = m := by
  have hxn := hx.eq_of_lt hn
  rcases Nat.lt_or_ge m (2 ^ 53) with hm | hm
  · have hxm := hy.eq_of_lt hm
    omega
  · have hlog : 53 ≤ m.log2 := (Nat.le_log2 (by omega)).2 hm
    have hpow : 2 ^ 53 ≤ 2 ^ m.log2 := Nat.pow_le_pow_right (by decide) hlog
    have hlow := hy.low
    omega

theorem log2_mul_two_pow (hn : n ≠ 0) (k : Nat) : (n * 2 ^ k).log2 = n.log2 + k := by
  have hpos := Nat.two_pow_pos k
  refine (Nat.log2_eq_iff (Nat.mul_ne_zero hn (by omega))).2 ⟨?_, ?_⟩
  · rw [Nat.pow_add]
    exact Nat.mul_le_mul_right _ (Nat.log2_self_le hn)
  · rw [Nat.add_right_comm, Nat.pow_add]
    exact Nat.mul_lt_mul_of_pos_right Nat.lt_log2_self hpos

/-! ## Rounding units -/

/-- A mantissa of 53 bits at least is rounded as it is with more zeros. -/
theorem roundWithAccuracy_mul_two_pow (hm : 52 ≤ m.log2) (he : -1074 ≤ e - (k : Nat))
    (s : UnpackedFloat.Sign) :
    UnpackedFloat.roundWithAccuracy .binary64 s (m * 2 ^ k) (e - (k : Nat)) .exact
      = UnpackedFloat.roundWithAccuracy .binary64 s m e .exact := by
  have hne : m ≠ 0 := by rintro rfl; simp at hm
  have hshift : UnpackedFloat.shiftToTargetExponent .binary64 (m * 2 ^ k) (e - (k : Nat)) .exact
      = UnpackedFloat.shiftToTargetExponent .binary64 m e .exact := by
    rw [shiftToTargetExponent_eq he, shiftToTargetExponent_eq (by omega), log2_mul_two_pow hne,
      show m.log2 + k - 52 = k + (m.log2 - 52) by omega, shiftRight_mul_two_pow]
    exact congrArg (Prod.mk _) (by omega)
  unfold UnpackedFloat.roundWithAccuracy
  rw [hshift]

/-- A short mantissa is first given zeros, as far as the exponent allows. -/
theorem round_eq (s : UnpackedFloat.Sign) (m q : Nat) :
    UnpackedFloat.round .binary64 s m ((q : Int) - 1074)
      = UnpackedFloat.roundWithAccuracy .binary64 s (m * 2 ^ min (52 - m.log2) q)
          ((q : Int) - 1074 - (min (52 - m.log2) q : Nat)) .exact := by
  have htarget : Format.binary64.targetExponent (totalExponent m ((q : Int) - 1074))
      = max ((m.log2 : Int) + 1 + ((q : Int) - 1074) - 53) (-1074) := rfl
  have hamount : ((q : Int) - 1074
      - Format.binary64.targetExponent (totalExponent m ((q : Int) - 1074))).toNat
        = min (52 - m.log2) q := by omega
  unfold UnpackedFloat.round UnpackedFloat.decreaseExponent
  dsimp only
  rw [hamount, Nat.shiftLeft_eq]

/-- A number of units is rounded in the same way however it is split. -/
theorem round_mul_two_pow (hm : m ≠ 0) (s : UnpackedFloat.Sign) (q : Nat) :
    UnpackedFloat.round .binary64 s (m * 2 ^ q) (-1074)
      = UnpackedFloat.round .binary64 s m ((q : Int) - 1074) := by
  have hunits := round_eq s (m * 2 ^ q) 0
  rw [Nat.min_zero, Nat.pow_zero, Nat.mul_one] at hunits
  refine hunits.trans ?_
  rw [round_eq s m q]
  generalize hj : min (52 - m.log2) q = j
  obtain ⟨i, rfl⟩ : ∃ i, q = j + i := Nat.exists_eq_add_of_le (by omega)
  by_cases hi : i = 0
  · subst hi
    congr 1
    omega
  · have hlog : 52 ≤ (m * 2 ^ j).log2 := by
      rw [log2_mul_two_pow hm]
      omega
    rw [← roundWithAccuracy_mul_two_pow (k := i) hlog (by omega), Nat.pow_add, Nat.mul_assoc]
    congr 1
    omega

/-- A finite number is rounded to itself. -/
theorem Units.round_eq (h : Units s v u) :
    UnpackedFloat.round .binary64 s v (-1074) = u := by
  cases h with
  | @finite m p hpos hlow hhigh hv =>
    have hlog : m.log2 ≤ 52 := by
      have := (Nat.log2_lt (by omega)).2 hhigh
      omega
    have hnone : min (52 - m.log2) p = 0 := by
      rcases hlow with rfl | hlow
      · exact Nat.min_zero _
      · have := (Nat.le_log2 (by omega)).2 hlow
        omega
    rw [hv, round_mul_two_pow (by omega), Ensemble.round_eq, hnone, Nat.pow_zero, Nat.mul_one]
    have hrounded := rounded_roundWithAccuracy (m := m)
      (e := (p : Int) - 1074 - (0 : Nat)) (by omega) (by omega) s
    have hplace : m.log2 - 52 = 0 := by omega
    generalize UnpackedFloat.roundWithAccuracy .. = u at hrounded
    cases hrounded with
    | @finite n c hn hform _ _ hle hge =>
      rw [hplace] at hle hge
      have hmn : n * 2 ^ c = m := by omega
      have hc : c = 0 := by
        by_contra hc
        have hpow : 2 ^ 1 ≤ 2 ^ c := Nat.pow_le_pow_right (by decide) (by omega)
        have := Nat.mul_le_mul (hform.resolve_left fun h => hc h.2) hpow
        omega
      rw [hc, Nat.pow_zero, Nat.mul_one] at hmn
      exact finite_congr rfl hmn (by omega)

/-- What is left after rounding is nearest, in the last place of the number. -/
theorem Nearest.of_rounded (hd : 52 ≤ d.log2) (hlow : 2 ^ 52 ≤ m) (hhigh : m ≤ 2 ^ 53)
    (hle : 2 * d ≤ (2 * m + 1) * 2 ^ (d.log2 - 52))
    (hge : 2 * m * 2 ^ (d.log2 - 52) ≤ 2 * d + 2 ^ (d.log2 - 52)) :
    Nearest d (2 ^ 52 * (m * 2 ^ (d.log2 - 52))) := by
  have hpow : 2 ^ d.log2 = 2 ^ 52 * 2 ^ (d.log2 - 52) := by
    rw [← Nat.pow_add, Nat.add_sub_cancel' hd]
  generalize 2 ^ (d.log2 - 52) = place at hle hge hpow ⊢
  refine ⟨⟨m, ?_⟩, ?_, ?_, ?_, ?_⟩ <;> rw [hpow]
  · rw [Nat.mul_assoc, Nat.mul_comm m]
  · exact Nat.mul_le_mul_left _ (Nat.mul_le_mul_right _ hlow)
  · rw [Nat.mul_left_comm]
    exact Nat.mul_le_mul_right _ hhigh
  · grind
  · grind

/-- A number with 52 bits at most is nearest to itself. -/
theorem Nearest.self (hd : d ≠ 0) (hlog : d.log2 < 52) : Nearest d (2 ^ 52 * d) := by
  have hlow := Nat.log2_self_le hd
  have hhigh := Nat.lt_log2_self (n := d)
  rw [Nat.pow_succ] at hhigh
  refine ⟨?_, Nat.mul_le_mul_left _ hlow, by omega, by omega, by omega⟩
  exact Dvd.dvd.mul_right (Nat.pow_dvd_pow 2 hlog.le) d

/-- Units are rounded to the nearest finite number. -/
theorem exists_units (hd : d ≠ 0) (s : UnpackedFloat.Sign) :
    ∃ v, Nearest d (2 ^ 52 * v) ∧ Units s v (UnpackedFloat.round .binary64 s d (-1074)) := by
  have hround := round_eq s d 0
  rw [Nat.min_zero, Nat.pow_zero, Nat.mul_one] at hround
  have hrounded := rounded_roundWithAccuracy (m := d) (e := -1074) hd (by omega) s
  rw [show UnpackedFloat.round .binary64 s d (-1074)
    = UnpackedFloat.roundWithAccuracy .binary64 s d (-1074) .exact from hround]
  generalize UnpackedFloat.roundWithAccuracy .. = u at hrounded
  cases hrounded with
  | @finite n c hn hform hlt hhigh hle hge =>
    have hexponent : (-1074 : Int) + (d.log2 - 52 : Nat) + c = (c + (d.log2 - 52) : Nat) - 1074 := by
      omega
    have hunits : Units s (n * 2 ^ c * 2 ^ (d.log2 - 52))
        (.finite s n ((c + (d.log2 - 52) : Nat) - 1074) hn) :=
      .finite (hform.imp (by omega) id) hlt (by rw [Nat.mul_assoc, ← Nat.pow_add])
    refine ⟨n * 2 ^ c * 2 ^ (d.log2 - 52), ?_, ?_⟩
    · rcases Nat.lt_or_ge d.log2 52 with hlog | hlog
      · rw [show d.log2 - 52 = 0 by omega] at hle hge ⊢
        rw [show n * 2 ^ c = d by omega, Nat.pow_zero, Nat.mul_one]
        exact Nearest.self hd hlog
      · have hlow := hform.resolve_left (by omega)
        exact .of_rounded hlog (hlow.trans (Nat.le_mul_of_pos_right n (Nat.two_pow_pos c))) hhigh
          hle hge
    · exact finite_congr rfl rfl hexponent ▸ hunits

end Ensemble
