import Ensemble.Proofs.Schema.Acceptance
import Ensemble.Proofs.Value.Rounding

/-!
# Numbers within their bounds

Numbers are compared with their bounds as floats.  Whole numbers beyond 2^53 may be rounded to the
float of a bound that they do not keep, and are accepted then; apart from this the check of a whole
number is exact.  A float is accepted within its bounds, and also when it is not a number at all.
-/

namespace Ensemble

namespace Dimension

variable {d : Dimension} {v : Value} {x : Float}

/-! ## Whole numbers -/

/-- Two whole numbers have the same nearest float. -/
def RoundsAlike (n m : Int64) : Prop :=
  Float.ofInt n.toInt = Float.ofInt m.toInt

instance (n m : Int64) : Decidable (RoundsAlike n m) :=
  inferInstanceAs (Decidable (Float.ofInt n.toInt = Float.ofInt m.toInt))

theorem RoundsAlike.comm {n m : Int64} : RoundsAlike n m ↔ RoundsAlike m n :=
  eq_comm

/-- Below 2^53 only a number itself has its nearest float. -/
theorem RoundsAlike.eq_or_large {n m : Int64} (h : RoundsAlike n m) :
    n = m ∨ 2 ^ 53 ≤ n.toInt.natAbs ∧ 2 ^ 53 ≤ m.toInt.natAbs :=
  (eq_or_large_of_float_ofInt (natAbs_toInt_lt n) (natAbs_toInt_lt m) h).imp_left Int64.toInt_inj.1

theorem float_lt_iff_not_alike {n m : Int64} :
    Float.ofInt n.toInt < Float.ofInt m.toInt ↔ ¬ (m ≤ n ∨ RoundsAlike n m) := by
  rw [float_ofInt_lt_iff (natAbs_toInt_lt n) (natAbs_toInt_lt m), not_or, Int64.not_le,
    Int64.lt_iff_toInt_lt]
  rfl

/-- The check of a whole number as a comparison of floats. -/
theorem check_int_eq_checkRange {min max : Option Int64} (hkind : d.kind = .integer min max)
    (n : Int64) :
    d.check (.int n) = checkRange (Float.ofInt n.toInt)
      (min.map fun m => Float.ofInt m.toInt) (max.map fun m => Float.ofInt m.toInt) := by
  unfold check
  rw [hkind]

theorem checkRange_of_lt_min {m : Float} {max : Option Float} (h : x < m) :
    checkRange x (some m) max = .error (.belowMinimum x m) := by
  simp [checkRange, h, throw_eq_error]

theorem checkRange_of_max_lt {min : Option Float} {m : Float} (hmin : ∀ k ∈ min, ¬ x < k)
    (h : m < x) : checkRange x min (some m) = .error (.aboveMaximum x m) := by
  cases min with
  | none => simp [checkRange, h, throw_eq_error]
  | some k =>
    have hk := hmin k rfl
    simp [checkRange, hk, h, throw_eq_error]

/-- A whole number is accepted if and only if it keeps its bounds, or is rounded to the float of a
bound that it does not keep; otherwise the first bound that it does not keep is named.  Different
numbers are rounded to one float only if neither is below 2^53. -/
theorem check_integer {min max : Option Int64} (hkind : d.kind = .integer min max) (n : Int64) :
    (d.check (.int n) = .ok () ↔
        (∀ m ∈ min, m ≤ n ∨ RoundsAlike n m) ∧ ∀ m ∈ max, n ≤ m ∨ RoundsAlike n m)
      ∧ (∀ m ∈ min, n < m → ¬ RoundsAlike n m →
          d.check (.int n) = .error (.belowMinimum (.ofInt n.toInt) (.ofInt m.toInt)))
      ∧ ((∀ m ∈ min, m ≤ n ∨ RoundsAlike n m) → ∀ m ∈ max, m < n → ¬ RoundsAlike n m →
          d.check (.int n) = .error (.aboveMaximum (.ofInt n.toInt) (.ofInt m.toInt)))
      ∧ ∀ k m : Int64, RoundsAlike k m →
          k = m ∨ 2 ^ 53 ≤ k.toInt.natAbs ∧ 2 ^ 53 ≤ m.toInt.natAbs := by
  rw [check_int_eq_checkRange hkind]
  have hmin : (∀ k ∈ min.map fun m => Float.ofInt m.toInt, ¬ Float.ofInt n.toInt < k) ↔
      ∀ m ∈ min, m ≤ n ∨ RoundsAlike n m := by
    simp only [Option.mem_def, Option.map_eq_some_iff, forall_exists_index, and_imp,
      forall_apply_eq_imp_iff₂, float_lt_iff_not_alike, not_not]
  have hmax : (∀ k ∈ max.map fun m => Float.ofInt m.toInt, ¬ Float.ofInt n.toInt > k) ↔
      ∀ m ∈ max, n ≤ m ∨ RoundsAlike n m := by
    simp only [gt_iff_lt, Option.mem_def, Option.map_eq_some_iff, forall_exists_index, and_imp,
      forall_apply_eq_imp_iff₂, float_lt_iff_not_alike, not_not, RoundsAlike.comm (n := n)]
  refine ⟨?_, ?_, ?_, fun k m => RoundsAlike.eq_or_large⟩
  · rw [checkRange_eq_ok_iff, hmin, hmax]
  · rintro m rfl hlt halike
    exact checkRange_of_lt_min (float_lt_iff_not_alike.2 (by simp [Int64.not_le.2 hlt, halike]))
  · rintro hkept m rfl hlt halike
    refine checkRange_of_max_lt (hmin.2 hkept) (float_lt_iff_not_alike.2 ?_)
    simp [Int64.not_le.2 hlt, halike, RoundsAlike.comm (n := m)]

/-- A serial number that is set in advance, just beyond 2^53. -/
def serial : Dimension :=
  ⟨"serial", .integer (some 9007199254740993) (some 9007199254740993), true⟩

/-- The second number below the bound is refused, and the second one above it. -/
theorem check_integer_serial :
    serial.kind = .integer (some 9007199254740993) (some 9007199254740993)
      ∧ serial.check (.int 9007199254740991)
        = .error (.belowMinimum (.ofInt 9007199254740991) (.ofInt 9007199254740993))
      ∧ serial.check (.int 9007199254740995)
        = .error (.aboveMaximum (.ofInt 9007199254740995) (.ofInt 9007199254740993)) := by
  have hkind : serial.kind = .integer (some 9007199254740993) (some 9007199254740993) := rfl
  have hlow : (9007199254740991 : Int64).toInt = 9007199254740991 := by decide
  have hbound : (9007199254740993 : Int64).toInt = 9007199254740993 := by decide
  have hhigh : (9007199254740995 : Int64).toInt = 9007199254740995 := by decide
  obtain ⟨-, hbelow, -, -⟩ := check_integer hkind 9007199254740991
  have hrefused := hbelow _ rfl (by decide) (by decide +kernel)
  rw [hlow, hbound] at hrefused
  obtain ⟨-, -, habove, -⟩ := check_integer hkind 9007199254740995
  have hkept : ∀ m ∈ some (9007199254740993 : Int64),
      m ≤ 9007199254740995 ∨ RoundsAlike 9007199254740995 m := by
    rintro m ⟨⟩
    exact .inl (by decide)
  have hrefused' := habove hkept _ rfl (by decide) (by decide +kernel)
  rw [hhigh, hbound] at hrefused'
  exact ⟨hkind, hrefused, hrefused'⟩

/-- The next number below the bound is rounded to the float of the bound, and accepted. -/
theorem serial_below_minimum_accepted :
    serial.kind = .integer (some 9007199254740993) (some 9007199254740993)
      ∧ (9007199254740992 : Int64) < 9007199254740993
      ∧ serial.check (.int 9007199254740992) = .ok () := by
  exact ⟨rfl, by decide, by decide +kernel⟩

/-! ## Floats -/

/-- A number is at least the minimum and at most the maximum, where these are set. -/
def Within (min max : Option Float) (x : Float) : Prop :=
  (∀ m ∈ min, m ≤ x) ∧ ∀ m ∈ max, x ≤ m

theorem checkRange_eq_ok_iff_within {min max : Option Float} (hmin : ∀ m ∈ min, m.isNaN = false)
    (hmax : ∀ m ∈ max, m.isNaN = false) :
    checkRange x min max = .ok () ↔ Within min max x ∨ x.isNaN = true := by
  rw [checkRange_eq_ok_iff]
  cases hx : x.isNaN with
  | false =>
    rw [or_iff_left Bool.false_ne_true]
    refine and_congr (forall₂_congr fun m hm => ?_) (forall₂_congr fun m hm => ?_)
    · exact (float_le_iff_not_lt_of_not_nan (hmin m hm) hx).symm
    · exact (float_le_iff_not_lt_of_not_nan hx (hmax m hm)).symm
  | true =>
    -- No comparison with it succeeds.
    exact iff_of_true ⟨fun m _ => (not_float_lt_of_isNaN hx m).1,
      fun m _ => (not_float_lt_of_isNaN hx m).2⟩ (.inr rfl)

theorem isNaN_ofInt (n : Int64) : (Float.ofInt n.toInt).isNaN = false :=
  isNaN_of_isFinite (isFinite_ofInt (natAbs_toInt_lt n))

theorem check_float_eq_ok_iff {min max : Option Float} (hkind : d.kind = .float min max)
    (hmin : ∀ m ∈ min, m.isNaN = false) (hmax : ∀ m ∈ max, m.isNaN = false) :
    d.check v = .ok () ↔
      ∃ x, v.number? = some x ∧ (Within min max x ∨ v = .float x ∧ x.isNaN = true) := by
  unfold check
  simp only [hkind]
  cases v with
  | int n =>
    have hrange := checkRange_eq_ok_iff_within (x := Float.ofInt n.toInt) hmin hmax
    rw [isNaN_ofInt n, or_iff_left Bool.false_ne_true] at hrange
    refine hrange.trans ⟨fun h => ⟨_, rfl, .inl h⟩, ?_⟩
    rintro ⟨x, hx, h | ⟨hv, -⟩⟩
    · rwa [Option.some.inj hx]
    · cases hv
  | float x =>
    refine (checkRange_eq_ok_iff_within hmin hmax).trans ⟨fun h => ⟨x, rfl, ?_⟩, ?_⟩
    · exact h.imp_right fun hnan => ⟨rfl, hnan⟩
    · rintro ⟨y, hy, h⟩
      obtain rfl := Option.some.inj hy
      exact h.imp_right And.right
  | _ => simp [Value.number?]

end Dimension

namespace Schema

variable {schema : Schema} {item : Item} {d : Dimension} {v : Value}

/-- A value that an accepted item carries under a float dimension is a number within its bounds, or
the float that is not a number. -/
theorem within_of_validate {min max : Option Float} (hd : d ∈ schema.dimensions)
    (hkind : d.kind = .float min max) (hmin : ∀ m ∈ min, m.isNaN = false)
    (hmax : ∀ m ∈ max, m.isNaN = false) (hvalid : schema.validate item = .ok ())
    (hv : item.attribute? d.name = some v) :
    ∃ x, v.number? = some x ∧ (Dimension.Within min max x ∨ v = .float x ∧ x.isNaN = true) := by
  have hnone := (validate_eq_ok_iff.1 hvalid).1 d hd
  have hcheck := (dimensionViolation?_eq_none_iff.1 hnone).2 v hv
  exact (Dimension.check_float_eq_ok_iff hkind hmin hmax).1 hcheck

/-- How warm a blanket is. -/
def warmth : Dimension :=
  ⟨"warmth", .float (some 0) (some 5), true⟩

/-- The schema of blankets. -/
def blankets : Schema :=
  ⟨"blankets", "1", [warmth], .reject, by decide⟩

/-- A blanket of some warmth. -/
def blanket (x : Value) : Item where
  id := ⟨"blanket"⟩
  name := "blanket"
  attributes := .ofList [("warmth", x)]

theorem within_of_validate_blanket :
    warmth ∈ blankets.dimensions ∧ warmth.kind = .float (some 0) (some 5)
      ∧ (∀ m ∈ some (0 : Float), m.isNaN = false) ∧ (∀ m ∈ some (5 : Float), m.isNaN = false)
      ∧ blankets.validate (blanket (.int 3)) = .ok ()
      ∧ (blanket (.int 3)).attribute? "warmth" = some (.int 3)
      ∧ ∃ x, (Value.int 3).number? = some x ∧
        (Dimension.Within (some 0) (some 5) x ∨ Value.int 3 = .float x ∧ x.isNaN = true) := by
  have hd : warmth ∈ blankets.dimensions := List.mem_singleton.2 rfl
  have hlow : ∀ m ∈ some (0 : Float), m.isNaN = false := by
    rintro m ⟨⟩
    decide +kernel
  have hhigh : ∀ m ∈ some (5 : Float), m.isNaN = false := by
    rintro m ⟨⟩
    decide +kernel
  have hvalid : blankets.validate (blanket (.int 3)) = .ok () := by decide +kernel
  have hcarried : (blanket (.int 3)).attribute? "warmth" = some (.int 3) := by decide +kernel
  have hwithin := within_of_validate hd rfl hlow hhigh hvalid hcarried
  exact ⟨hd, rfl, hlow, hhigh, hvalid, hcarried, hwithin⟩

/-- A blanket whose warmth is not a number is accepted. -/
theorem blanket_without_number_accepted :
    warmth ∈ blankets.dimensions ∧ warmth.kind = .float (some 0) (some 5)
      ∧ (0 : Float).isNaN = false ∧ (5 : Float).isNaN = false
      ∧ blankets.validate (blanket (.float (0 / 0))) = .ok ()
      ∧ (blanket (.float (0 / 0))).attribute? "warmth" = some (.float (0 / 0))
      ∧ (Value.float (0 / 0)).number? = some (0 / 0)
      ∧ ¬ (0 : Float) ≤ 0 / 0 ∧ ¬ (0 / 0 : Float) ≤ 5 := by
  refine ⟨List.mem_singleton.2 rfl, rfl, ?_, ?_, ?_, ?_, rfl, ?_, ?_⟩
  all_goals decide +kernel

end Schema

end Ensemble
