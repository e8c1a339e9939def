import Ensemble.Proofs.Value.Heights
import Ensemble.Proofs.Value.Units

/-!
# Distances

The difference of two finite floats is the float nearest to the exact difference, counted in units
of 2^-1074.  Rounding never turns two of them around, so no two floats between a least and a
greatest one are further apart than these.
-/

namespace Ensemble

open Float.Model

variable {s t : UnpackedFloat.Sign} {u w : UnpackedFloat} {x y z : Float} {d m p q v : Nat}
  {e n k : Int}

/-! ## Numbers of units -/

/-- A finite float, unpacked, and the number of units that it stands for. -/
inductive Amounts : Int → UnpackedFloat → Prop
  | zero {s : UnpackedFloat.Sign} : Amounts 0 (.zero s)
  | finite {s : UnpackedFloat.Sign} {v : Nat} {u : UnpackedFloat} (hu : Units s v u) :
    Amounts (s.apply v) u

theorem exists_amount (h : x.isFinite = true) : ∃ n, Amounts n x.toModel.unpack := by
  obtain ⟨⟨⟨b⟩, hb⟩⟩ := x
  have h : (UnpackedFloat.unpack .binary64 b).isFinite = true := h
  show ∃ n, Amounts n (UnpackedFloat.unpack .binary64 b)
  cases hu : UnpackedFloat.unpack .binary64 b with
  | zero s => exact ⟨0, .zero⟩
  | finite s m e hm =>
    obtain ⟨v, -, hv⟩ := exists_units_of_unpack hb hu
    exact ⟨s.apply v, .finite hv⟩
  | _ =>
    rw [hu] at h
    cases h

theorem compare_apply (s : UnpackedFloat.Sign) (d v : Nat) :
    compare (s.apply d) (s.apply v) = signed s (compare d v) := by
  rcases Nat.lt_trichotomy d v with h | rfl | h
  · rw [Nat.compare_eq_lt.2 h]
    cases s
    · exact Int.compare_eq_gt.2 (Int.neg_lt_neg (Int.ofNat_lt.2 h))
    · exact Int.compare_eq_lt.2 (Int.ofNat_lt.2 h)
  · rw [Nat.compare_eq_eq.2 rfl, Int.compare_eq_eq.2 rfl]
    cases s <;> rfl
  · rw [Nat.compare_eq_gt.2 h]
    cases s
    · exact Int.compare_eq_lt.2 (Int.neg_lt_neg (Int.ofNat_lt.2 h))
    · exact Int.compare_eq_gt.2 (Int.ofNat_lt.2 h)

/-- Finite floats are in the order of the units they stand for. -/
theorem Amounts.compare_eq (hu : Amounts n u) (hw : Amounts k w) :
    u.compare w = some (compare n k) := by
  -- Signs decide, unless they are the same.
  have negative : ∀ {d : Nat}, 0 < d → UnpackedFloat.Sign.negative.apply d < 0 := fun hd =>
    Int.neg_neg_of_pos (Int.natCast_pos.2 hd)
  have positive : ∀ {d : Nat}, 0 < d → 0 < UnpackedFloat.Sign.positive.apply d := fun hd =>
    Int.natCast_pos.2 hd
  cases hu with
  | zero =>
    cases hw with
    | zero => rfl
    | @finite t _ _ hw =>
      have hpos := hw.pos
      cases hw
      cases t
      case positive => rw [Int.compare_eq_lt.2 (positive hpos)]; rfl
      case negative => rw [Int.compare_eq_gt.2 (negative hpos)]; rfl
  | @finite s _ _ hu =>
    have hpos := hu.pos
    cases hw with
    | zero =>
      cases hu
      cases s
      case positive => rw [Int.compare_eq_gt.2 (positive hpos)]; rfl
      case negative => rw [Int.compare_eq_lt.2 (negative hpos)]; rfl
    | @finite t _ _ hw =>
      have hpos' := hw.pos
      cases s <;> cases t
      case positive.positive => rw [hu.compare_eq hw, compare_apply]
      case negative.negative => rw [hu.compare_eq hw, compare_apply]
      case positive.negative =>
        rw [Int.compare_eq_gt.2 ((negative hpos').trans (positive hpos))]
        cases hu
        cases hw
        rfl
      case negative.positive =>
        rw [Int.compare_eq_lt.2 ((negative hpos).trans (positive hpos'))]
        cases hu
        cases hw
        rfl

theorem float_le_iff_amounts (hx : Amounts n x.toModel.unpack) (hy : Amounts k y.toModel.unpack) :
    x ≤ y ↔ n ≤ k := by
  rw [float_le_iff, hx.compare_eq hy, ← Int.isLE_compare]
  simp only [Option.some.injEq, exists_eq_left']

/-! ## Subtracting -/

theorem apply_mul (s : UnpackedFloat.Sign) (d m : Nat) :
    s.apply d * m = s.apply (d * m : Nat) := by
  cases s
  · exact (Int.neg_mul ..).trans (congrArg _ (Int.natCast_mul ..).symm)
  · exact (Int.natCast_mul ..).symm

theorem normalize_apply (hd : d ≠ 0) (s t : UnpackedFloat.Sign) (e : Int) :
    UnpackedFloat.normalize .binary64 (s.apply d) e t = UnpackedFloat.round .binary64 s d e := by
  unfold UnpackedFloat.normalize
  cases s with
  | positive => rw [show compare (UnpackedFloat.Sign.positive.apply d) 0 = .gt from
      Int.compare_eq_gt.2 (Int.natCast_pos.2 (Nat.pos_of_ne_zero hd))]; rfl
  | negative =>
    have hlt : compare (UnpackedFloat.Sign.negative.apply d) 0 = .lt :=
      Int.compare_eq_lt.2 (Int.neg_neg_of_pos (Int.natCast_pos.2 (Nat.pos_of_ne_zero hd)))
    rw [hlt]
    show UnpackedFloat.round .binary64 .negative (- -(d : Int)).toNat e = _
    rw [Int.neg_neg, Int.toNat_natCast]

theorem exists_apply (n : Int) : ∃ (s : UnpackedFloat.Sign) (d : Nat), n = s.apply d := by
  obtain ⟨d, rfl | rfl⟩ := Int.eq_nat_or_neg n
  · exact ⟨.positive, d, rfl⟩
  · exact ⟨.negative, d, rfl⟩

/-- A difference is rounded in the same way however it is split. -/
theorem normalize_mul_two_pow (n : Int) (q : Nat) (t : UnpackedFloat.Sign) :
    UnpackedFloat.normalize .binary64 (n * (2 ^ q : Nat)) (-1074) t
      = UnpackedFloat.normalize .binary64 n ((q : Int) - 1074) t := by
  obtain ⟨s, d, rfl⟩ := exists_apply n
  rw [apply_mul]
  rcases Nat.eq_zero_or_pos d with rfl | hd
  · rw [Nat.zero_mul]
    cases s <;> rfl
  · have hpos := Nat.mul_pos hd (Nat.two_pow_pos q)
    rw [normalize_apply (by omega), normalize_apply (by omega), round_mul_two_pow (by omega)]

theorem Units.normalize_eq (h : Units s v u) (t : UnpackedFloat.Sign) :
    UnpackedFloat.normalize .binary64 (s.apply v) (-1074) t = u := by
  have hpos := h.pos
  rw [normalize_apply (by omega), h.round_eq]

theorem sub_finite {m n p q : Nat} (hm : 0 < m) (hn : 0 < n) (s t : UnpackedFloat.Sign) :
    UnpackedFloat.sub .binary64 (.finite s m ((p : Int) - 1074) hm)
        (.finite t n ((q : Int) - 1074) hn)
      = UnpackedFloat.normalize .binary64 (s.apply (m * 2 ^ p : Nat) - t.apply (n * 2 ^ q : Nat))
          (-1074) .positive := by
  have hleast : min ((p : Int) - 1074) ((q : Int) - 1074) = (min p q : Nat) - 1074 := by omega
  have hp : ((p : Int) - 1074 - ((min p q : Nat) - 1074)).toNat = p - min p q := by omega
  have hq : ((q : Int) - 1074 - ((min p q : Nat) - 1074)).toNat = q - min p q := by omega
  have hsplit : m * 2 ^ (p - min p q) * 2 ^ min p q = m * 2 ^ p := by
    rw [Nat.mul_assoc, ← Nat.pow_add, Nat.sub_add_cancel (Nat.min_le_left ..)]
  have hsplit' : n * 2 ^ (q - min p q) * 2 ^ min p q = n * 2 ^ q := by
    rw [Nat.mul_assoc, ← Nat.pow_add, Nat.sub_add_cancel (Nat.min_le_right ..)]
  unfold UnpackedFloat.sub UnpackedFloat.decreaseExponent
  dsimp only
  rw [hleast, hp, hq, Nat.shiftLeft_eq, Nat.shiftLeft_eq, ← normalize_mul_two_pow, Int.sub_mul,
    apply_mul, apply_mul, hsplit, hsplit']

/-- Subtracting rounds the exact difference; only the sign of a zero may be another one. -/
theorem Amounts.sub_eq_or_zero (hu : Amounts n u) (hw : Amounts k w) :
    u.sub .binary64 w = .normalize .binary64 (n - k) (-1074) .positive ∨
      n = k ∧ ∃ s, u.sub .binary64 w = .zero s := by
  cases hu with
  | @zero s =>
    cases hw with
    | @zero t => cases s <;> cases t <;> exact .inr ⟨rfl, _, rfl⟩
    | @finite t x w hw =>
      have hneg : UnpackedFloat.sub .binary64 (.zero s) w = w.neg := by
        cases hw
        rfl
      rw [hneg, Int.zero_sub, ← apply_neg, hw.neg.normalize_eq]
      exact .inl rfl
  | @finite s v _ hu =>
    cases hw with
    | @zero t =>
      have hself : UnpackedFloat.sub .binary64 u (.zero t) = u := by
        cases hu
        rfl
      rw [hself, Int.sub_zero, hu.normalize_eq]
      exact .inl rfl
    | @finite t x _ hw =>
      cases hu with
      | finite _ _ hv =>
        cases hw with
        | finite _ _ hx =>
          rw [hv, hx]
          exact .inl (sub_finite ..)

/-! ## The nearest float -/

/-- The float nearest to a number of units. -/
def ofUnits (n : Int) : Float :=
  .ofModel (.pack (.normalize .binary64 n (-1074) .positive))

/-- What so many units are stored as: the nearest number, unless it is too large. -/
inductive Reached (d : Nat) (w : UnpackedFloat) : Prop
  | zero (hd : d = 0) (hw : w = .zero .positive)
  | finite {v : Nat} (hv : Nearest d (2 ^ 52 * v)) (hlt : v < limit) (hw : Units .positive v w)
  | infinity {v : Nat} (hv : Nearest d (2 ^ 52 * v)) (hle : limit ≤ v)
    (hw : w = .infinity .positive)

theorem reached_ofUnits (d : Nat) : Reached d (ofUnits d).toModel.unpack := by
  rcases Nat.eq_zero_or_pos d with rfl | hd
  · exact .zero rfl rfl
  · obtain ⟨v, hv, hunits⟩ := exists_units (d := d) (by omega) .positive
    rw [show UnpackedFloat.round .binary64 .positive d (-1074)
      = .normalize .binary64 d (-1074) .positive
        from (normalize_apply (by omega) .positive ..).symm] at hunits
    rcases Nat.lt_or_ge v limit with hlt | hle
    · refine .finite hv hlt ?_
      show Units .positive v (Float.Model.pack (.normalize .binary64 d (-1074) .positive)).unpack
      rw [hunits.stored hlt]
      exact hunits
    · exact .infinity hv hle (hunits.overflows hle)

theorem Reached.isNaN (h : Reached d w) : w.isNaN = false := by
  cases h with
  | zero _ hw | infinity _ _ hw => subst hw; rfl
  | finite _ _ hw => cases hw; rfl

theorem Reached.abs_eq (h : Reached d w) : w.abs = w := by
  cases h with
  | zero _ hw | infinity _ _ hw => subst hw; rfl
  | finite _ _ hw => cases hw; rfl

/-- The float nearest to fewer units is not above the one nearest to more. -/
theorem ofUnits_le (h : d ≤ m) : ofUnits d ≤ ofUnits m := by
  rcases Nat.eq_or_lt_of_le h with rfl | hlt
  · exact (float_le_iff_rank (reached_ofUnits d).isNaN (reached_ofUnits d).isNaN).2 le_rfl
  rw [float_le_iff]
  have hd := reached_ofUnits d
  have hm := reached_ofUnits m
  generalize (ofUnits d).toModel.unpack = u at hd
  generalize (ofUnits m).toModel.unpack = w at hm
  have hle : ∀ {v v' : Nat}, Nearest d (2 ^ 52 * v) → Nearest m (2 ^ 52 * v') → v ≤ v' :=
    fun hv hv' => Nat.le_of_mul_le_mul_left (hv.le_of_lt hv' hlt) (by decide)
  cases hd with
  | zero _ hu =>
    subst hu
    cases hm with
    | zero hm => omega
    | finite _ _ hw => cases hw; exact ⟨.lt, rfl, rfl⟩
    | infinity _ _ hw => subst hw; exact ⟨.lt, rfl, rfl⟩
  | finite hv _ hu =>
    cases hm with
    | zero hm => omega
    | finite hv' _ hw =>
      refine ⟨_, hu.compare_eq hw, ?_⟩
      exact Nat.isLE_compare.2 (hle hv hv')
    | infinity _ _ hw =>
      subst hw
      cases hu
      exact ⟨.lt, rfl, rfl⟩
  | infinity hv hlarge hu =>
    cases hm with
    | zero hm => omega
    | finite hv' hsmall _ =>
      have := hle hv hv'
      omega
    | infinity _ _ hw =>
      subst hu hw
      exact ⟨.eq, rfl, rfl⟩

/-! ## Floats -/

/-- Storing changes no magnitude. -/
theorem unpack_float_abs (x : Float) : x.abs.toModel.unpack = x.toModel.unpack.abs := by
  obtain ⟨⟨⟨b⟩, hb⟩⟩ := x
  show (Float.Model.pack (UnpackedFloat.unpack .binary64 b).abs).unpack
    = (UnpackedFloat.unpack .binary64 b).abs
  cases hu : UnpackedFloat.unpack .binary64 b with
  | finite s m e hm =>
    obtain ⟨v, hlt, hv⟩ := exists_units_of_unpack hb hu
    exact hv.abs.stored hlt
  | notANumber => rfl
  | zero s => cases s <;> rfl
  | infinity s => cases s <;> rfl

theorem Alike.abs (h : Alike x y) : Alike x.abs y.abs := by
  unfold Alike
  rw [unpack_float_abs, unpack_float_abs]
  obtain h | ⟨s, t, hs, ht⟩ := h
  · exact .inl (congrArg _ h)
  · rw [hs, ht]
    exact .inl rfl

theorem abs_ofUnits (n : Int) : (ofUnits n).abs = ofUnits n.natAbs := by
  apply float_eq_of_unpack
  rw [unpack_float_abs]
  have habs : (UnpackedFloat.normalize .binary64 n (-1074) .positive).abs
      = (UnpackedFloat.normalize .binary64 n.natAbs (-1074) .positive).abs := by
    rcases Int.natAbs_eq n with h | h
    · rw [← h]
    · rw [h, abs_normalize_neg, Int.natAbs_neg, Int.natAbs_natCast]
  exact (abs_unpack_pack habs).trans (reached_ofUnits n.natAbs).abs_eq

/-- A difference is the float nearest to the exact one, apart from the sign of a zero. -/
theorem alike_sub (hx : Amounts n x.toModel.unpack) (hy : Amounts k y.toModel.unpack) :
    Alike (x - y) (ofUnits (n - k)) := by
  have hsub : (x - y).toModel.unpack
      = (Float.Model.pack (x.toModel.unpack.sub .binary64 y.toModel.unpack)).unpack := rfl
  unfold Alike
  rw [hsub]
  obtain h | ⟨rfl, s, h⟩ := hx.sub_eq_or_zero hy
  · rw [h]
    exact .inl rfl
  · rw [h, Int.sub_self]
    exact .inr ⟨s, .positive, unpack_pack_zero s, rfl⟩

/-- Two floats between a least and a greatest one are not further apart than these. -/
theorem float_abs_sub_le {least greatest r : Float} (hleast : least.isFinite = true)
    (hgreatest : greatest.isFinite = true) (hx : x.isFinite = true) (hy : y.isFinite = true)
    (hlx : least ≤ x) (hxg : x ≤ greatest) (hly : least ≤ y) (hyg : y ≤ greatest)
    (h : greatest - least ≤ r) : (x - y).abs ≤ r := by
  obtain ⟨a, ha⟩ := exists_amount hleast
  obtain ⟨b, hb⟩ := exists_amount hgreatest
  obtain ⟨n, hn⟩ := exists_amount hx
  obtain ⟨k, hk⟩ := exists_amount hy
  rw [float_le_iff_amounts ha hn] at hlx
  rw [float_le_iff_amounts hn hb] at hxg
  rw [float_le_iff_amounts ha hk] at hly
  rw [float_le_iff_amounts hk hb] at hyg
  rw [(alike_sub hb ha).le_iff, ← Int.toNat_of_nonneg (a := b - a) (by omega)] at h
  rw [(alike_sub hn hk).abs.le_iff, abs_ofUnits]
  exact float_le_trans (ofUnits_le (by omega)) h

/-- The distance of a least and a greatest float is their difference. -/
theorem float_sub_le_of_abs {least greatest r : Float} (hleast : least.isFinite = true)
    (hgreatest : greatest.isFinite = true) (hle : least ≤ greatest)
    (h : (greatest - least).abs ≤ r) : greatest - least ≤ r := by
  obtain ⟨a, ha⟩ := exists_amount hleast
  obtain ⟨b, hb⟩ := exists_amount hgreatest
  rw [float_le_iff_amounts ha hb] at hle
  rw [(alike_sub hb ha).abs.le_iff, abs_ofUnits] at h
  rwa [(alike_sub hb ha).le_iff, ← Int.natAbs_of_nonneg (a := b - a) (by omega)]

theorem float_abs_sub_self_le {r : Float} (hx : x.isFinite = true) (hr : 0 ≤ r) :
    (x - x).abs ≤ r := by
  obtain ⟨n, hn⟩ := exists_amount hx
  rw [(alike_sub hn hn).abs.le_iff, abs_ofUnits, Int.sub_self]
  exact hr

/-! ## Infinite floats -/

/-- What is above every finite number, or no number. -/
inductive Unbounded : UnpackedFloat → Prop
  | notANumber : Unbounded .notANumber
  | infinity : Unbounded (.infinity .positive)

theorem Unbounded.not_le {r : Float} (hx : Unbounded x.toModel.unpack) (hr : r.isFinite = true) :
    ¬ x ≤ r := by
  have hr : r.toModel.unpack.isFinite = true := hr
  rw [float_le_iff]
  generalize x.toModel.unpack = u at hx
  generalize r.toModel.unpack = w at hr
  rintro ⟨o, ho, hle⟩
  cases hx
  case notANumber => cases ho
  case infinity =>
    cases w
    case finite | zero =>
      obtain rfl := Option.some.inj ho
      cases hle
    all_goals cases hr

/-- What lies between two finite floats is finite. -/
theorem isFinite_of_between {least greatest : Float} (hleast : least.isFinite = true)
    (hgreatest : greatest.isFinite = true) (hle : least ≤ x) (hge : x ≤ greatest) :
    x.isFinite = true := by
  have hleast : least.toModel.unpack.isFinite = true := hleast
  have hgreatest : greatest.toModel.unpack.isFinite = true := hgreatest
  obtain ⟨o, ho, hle⟩ := float_le_iff.1 hle
  obtain ⟨o', ho', hge⟩ := float_le_iff.1 hge
  show x.toModel.unpack.isFinite = true
  generalize least.toModel.unpack = u at hleast ho
  generalize greatest.toModel.unpack = w at hgreatest ho'
  cases hx : x.toModel.unpack with
  | zero | finite => rfl
  | notANumber =>
    rw [hx] at ho'
    cases ho'
  | infinity s =>
    rw [hx] at ho ho'
    cases s with
    | positive =>
      have hgt : o' = .gt := by
        cases w <;> first | exact (Option.some.inj ho').symm | cases hgreatest
      rw [hgt] at hge
      cases hge
    | negative =>
      have hgt : o = .gt := by
        rcases u with s | _ | s | ⟨s, _, _, _⟩
        case zero | finite => cases s <;> exact (Option.some.inj ho).symm
        all_goals cases hleast
      rw [hgt] at hle
      cases hle

theorem unpack_pack_of_not_finite (h : u.isFinite = false) : (Float.Model.pack u).unpack = u := by
  cases u with
  | notANumber => rfl
  | infinity s => cases s <;> rfl
  | _ => cases h

theorem isFinite_sub (h : u.isFinite = false ∨ w.isFinite = false) :
    (u.sub .binary64 w).isFinite = false := by
  rcases u with s | _ | s | _ <;> rcases w with t | _ | t | _
  case infinity.infinity => cases s <;> cases t <;> rfl
  all_goals first | rfl | (rcases h with h | h <;> cases h)

theorem unbounded_abs (h : u.isFinite = false) : Unbounded u.abs := by
  cases u with
  | notANumber => exact .notANumber
  | infinity s => exact .infinity
  | _ => cases h

/-- The difference of two numbers, the greater one first, is no negative infinity. -/
theorem unbounded_sub (hle : (w.compare u).any Ordering.isLE = true)
    (h : u.isFinite = false ∨ w.isFinite = false) : Unbounded (u.sub .binary64 w) := by
  rcases u with s | _ | s | _ <;> rcases w with t | _ | t | _
  all_goals try cases s
  all_goals try cases t
  all_goals first
    | exact .notANumber
    | exact .infinity
    | (cases hle; done)
    | (rcases h with h | h <;> cases h)

theorem unpack_float_sub_of_not_finite (h : x.isFinite = false ∨ y.isFinite = false) :
    (x - y).toModel.unpack = x.toModel.unpack.sub .binary64 y.toModel.unpack :=
  unpack_pack_of_not_finite (isFinite_sub h)

/-- The distance from an infinite float is no finite one. -/
theorem not_float_abs_sub_le {r : Float} (h : x.isFinite = false ∨ y.isFinite = false)
    (hr : r.isFinite = true) : ¬ (x - y).abs ≤ r := by
  refine Unbounded.not_le ?_ hr
  rw [unpack_float_abs, unpack_float_sub_of_not_finite h]
  exact unbounded_abs (isFinite_sub h)

theorem not_float_sub_le {least greatest r : Float} (hle : least ≤ greatest)
    (h : greatest.isFinite = false ∨ least.isFinite = false) (hr : r.isFinite = true) :
    ¬ greatest - least ≤ r := by
  refine Unbounded.not_le ?_ hr
  rw [unpack_float_sub_of_not_finite h]
  refine unbounded_sub ?_ h
  obtain ⟨o, ho, hle⟩ := float_le_iff.1 hle
  rw [ho]
  exact hle

end Ensemble
