import Ensemble.Proofs.Value.Heights
import Ensemble.Proofs.Value.Rounding
import Ensemble.Proofs.Value.Sameness

/-!
# The order of values

Numbers are ordered across their kinds, an integer as the float that it is rounded to; only two
integers are compared exactly.  As rounding never turns integers around, what is below is so in a
chain as well.  In this order values are equal that equality tells apart: an integer and a float of
equal magnitude, and the two zeros.  Lists, maps and floats that are not numbers have no place, so
they are not even equal to themselves.
-/

namespace Ensemble

variable {x y z : Float}

namespace Value

variable {u v w : Value} {o : Ordering} {n m : Int64}

/-! ## Floats -/

theorem compareFloats?_eq (x y : Float) :
    compareFloats? x y = x.toModel.unpack.compare y.toModel.unpack := by
  unfold compareFloats?
  simp only [float_lt_iff, float_beq_iff]
  rw [unpacked_compare_swap x.toModel.unpack]
  rcases x.toModel.unpack.compare y.toModel.unpack with _ | o
  · rfl
  · cases o <;> rfl

theorem compareFloats?_swap (x y : Float) :
    compareFloats? y x = (compareFloats? x y).map Ordering.swap := by
  rw [compareFloats?_eq, compareFloats?_eq, unpacked_compare_swap]

theorem compareFloats?_eq_lt_iff : compareFloats? x y = some .lt ↔ x < y := by
  rw [compareFloats?_eq, float_lt_iff]

theorem compareFloats?_eq_eq_iff : compareFloats? x y = some .eq ↔ (x == y) = true := by
  rw [compareFloats?_eq, float_beq_iff]

/-! ## Numbers -/

/-- A number, with the float that it is compared as. -/
inductive Number : Value → Float → Prop where
  | int (n : Int64) : Number (.int n) (Float.ofInt n.toInt)
  | float (x : Float) : Number (.float x) x

theorem not_nan_ofInt (n : Int64) : (Float.ofInt n.toInt).isNaN = false :=
  isNaN_of_isFinite (isFinite_ofInt (natAbs_toInt_lt n))

/-- Rounding never turns integers around. -/
theorem rank_ofInt_le (h : n ≤ m) : rank (Float.ofInt n.toInt) ≤ rank (Float.ofInt m.toInt) := by
  refine not_lt.1 fun hrank => ?_
  have hlt : Float.ofInt m.toInt < Float.ofInt n.toInt :=
    float_lt_iff_rank.2 ⟨not_nan_ofInt m, not_nan_ofInt n, hrank⟩
  rw [float_ofInt_lt_iff (natAbs_toInt_lt m) (natAbs_toInt_lt n)] at hlt
  exact absurd hlt.1 (Int.not_lt.2 (Int64.le_iff_toInt_le.1 h))

/-- A number is below another one as a float, or it is an integer that is rounded to the same float
as a greater one. -/
theorem Number.compare?_eq_lt_iff (hu : Number u x) (hv : Number v y) :
    u.compare? v = some .lt ↔ x.isNaN = false ∧ y.isNaN = false ∧
      (rank x < rank y ∨ rank x = rank y ∧ ∃ n m, u = .int n ∧ v = .int m ∧ n < m) := by
  cases hu with
  | int n =>
    cases hv with
    | int m =>
      have hcompare : Value.compare? (.int n) (.int m) = some .lt ↔ n < m :=
        Option.some_inj.trans Std.compare_eq_lt
      rw [hcompare]
      constructor
      · intro h
        refine ⟨not_nan_ofInt n, not_nan_ofInt m, ?_⟩
        exact (rank_ofInt_le (Int64.le_of_lt h)).lt_or_eq.imp_right fun hrank =>
          ⟨hrank, n, m, rfl, rfl, h⟩
      · rintro ⟨-, -, h | ⟨-, n', m', hn, hm, h⟩⟩
        · exact Int64.not_le.1 fun hle => absurd h (not_lt.2 (rank_ofInt_le hle))
        · cases hn
          cases hm
          exact h
    | float y =>
      refine (compareFloats?_eq_lt_iff.trans float_lt_iff_rank).trans ?_
      simp
  | float x =>
    refine (show Value.compare? (.float x) v = compareFloats? x y by cases hv <;> rfl) ▸ ?_
    refine (compareFloats?_eq_lt_iff.trans float_lt_iff_rank).trans ?_
    simp

/-- Numbers are equal as floats, but two integers are compared exactly. -/
theorem Number.compare?_eq_eq_iff (hu : Number u x) (hv : Number v y) :
    u.compare? v = some .eq ↔ (x == y) = true ∧ ∀ n m, u = .int n → v = .int m → n = m := by
  cases hu with
  | int n =>
    cases hv with
    | int m =>
      have hcompare : Value.compare? (.int n) (.int m) = some .eq ↔ n = m :=
        Option.some_inj.trans Std.compare_eq_iff_eq
      rw [hcompare]
      constructor
      · rintro rfl
        refine ⟨float_beq_self (not_nan_ofInt n), fun n' m' hn hm => ?_⟩
        exact (Value.int.inj hn).symm.trans (Value.int.inj hm)
      · rintro ⟨-, h⟩
        exact h n m rfl rfl
    | float y =>
      refine compareFloats?_eq_eq_iff.trans ?_
      simp
  | float x =>
    refine (show Value.compare? (.float x) v = compareFloats? x y by cases hv <;> rfl) ▸ ?_
    refine compareFloats?_eq_eq_iff.trans ?_
    simp

/-! ## Values -/

/-- The values that have an order, kind by kind. -/
inductive Comparable : Value → Value → Ordering → Prop where
  | nil : Comparable .nil .nil .eq
  | bool {p q : Bool} {o : Ordering} (h : compare p q = o) : Comparable (.bool p) (.bool q) o
  | string {s t : String} {o : Ordering} (h : compare s t = o) :
    Comparable (.string s) (.string t) o
  | number {u v : Value} {x y : Float} {o : Ordering} (hu : Number u x) (hv : Number v y)
    (h : u.compare? v = some o) : Comparable u v o

theorem comparable_iff : Comparable u v o ↔ u.compare? v = some o := by
  constructor
  · intro h
    cases h with
    | nil => rfl
    | bool h => exact congrArg some h
    | string h => exact congrArg some h
    | number _ _ h => exact h
  · intro h
    cases u <;> cases v
    case nil.nil =>
      obtain rfl := Option.some.inj h
      exact .nil
    case bool.bool => exact .bool (Option.some.inj h)
    case string.string => exact .string (Option.some.inj h)
    case int.int => exact .number (.int _) (.int _) h
    case int.float => exact .number (.int _) (.float _) h
    case float.int => exact .number (.float _) (.int _) h
    case float.float => exact .number (.float _) (.float _) h
    all_goals cases h

theorem compare?_swap (u v : Value) : v.compare? u = (u.compare? v).map Ordering.swap := by
  cases u <;> cases v
  case bool.bool => exact congrArg some Std.OrientedCmp.eq_swap
  case string.string => exact congrArg some Std.OrientedCmp.eq_swap
  case int.int => exact congrArg some Std.OrientedCmp.eq_swap
  case int.float => exact compareFloats?_swap _ _
  case float.int => exact compareFloats?_swap _ _
  case float.float => exact compareFloats?_swap _ _
  all_goals rfl

theorem Number.lt_trans (hu : Number u x) (hv : Number v y) (hw : Number w z)
    (huv : u.compare? v = some .lt) (hvw : v.compare? w = some .lt) :
    u.compare? w = some .lt := by
  rw [hu.compare?_eq_lt_iff hv] at huv
  rw [hv.compare?_eq_lt_iff hw] at hvw
  rw [hu.compare?_eq_lt_iff hw]
  obtain ⟨hx, -, hxy⟩ := huv
  obtain ⟨-, hz, hyz⟩ := hvw
  refine ⟨hx, hz, ?_⟩
  rcases hxy with hxy | ⟨hxy, n, m, hn, hm, hnm⟩
  · rcases hyz with hyz | ⟨hyz, -⟩
    · exact .inl (hxy.trans hyz)
    · exact .inl (hyz ▸ hxy)
  · rcases hyz with hyz | ⟨hyz, m', k, hm', hk, hmk⟩
    · exact .inl (hxy ▸ hyz)
    · obtain rfl := Value.int.inj (hm.symm.trans hm')
      exact .inr ⟨hxy.trans hyz, n, k, hn, hk, Int64.lt_trans hnm hmk⟩

theorem compare?_lt_trans (huv : u.compare? v = some .lt) (hvw : v.compare? w = some .lt) :
    u.compare? w = some .lt := by
  rw [← comparable_iff] at huv hvw
  cases huv with
  | bool h =>
    cases hvw with
    | bool h' => exact congrArg some (Std.TransCmp.lt_trans h h')
    | number hv => cases hv
  | string h =>
    cases hvw with
    | string h' => exact congrArg some (Std.TransCmp.lt_trans h h')
    | number hv => cases hv
  | number hu hv h =>
    cases hvw with
    | bool => cases hv
    | string => cases hv
    | number hv' hw h' => exact hu.lt_trans hv' hw h h'

theorem Number.eq_trans (hu : Number u x) (hv : Number v y) (hw : Number w z)
    (hrounded : ¬ RoundedAlike u v w) (huv : u.compare? v = some .eq)
    (hvw : v.compare? w = some .eq) : u.compare? w = some .eq := by
  rw [hu.compare?_eq_eq_iff hv] at huv
  rw [hv.compare?_eq_eq_iff hw] at hvw
  rw [hu.compare?_eq_eq_iff hw]
  refine ⟨float_beq_trans huv.1 hvw.1, ?_⟩
  rintro n m rfl rfl
  cases hv with
  | int k => exact (huv.2 n k rfl rfl).trans (hvw.2 k m rfl rfl)
  | float y => exact not_not.1 fun hnm => hrounded ⟨n, y, m, rfl, rfl, rfl, hnm⟩

/-- What is equal to the same value is equal, unless integers were rounded to it. -/
theorem compare?_eq_trans (huv : u.compare? v = some .eq) (hvw : v.compare? w = some .eq)
    (hrounded : ¬ RoundedAlike u v w) : u.compare? w = some .eq := by
  rw [← comparable_iff] at huv hvw
  cases huv with
  | nil =>
    cases hvw with
    | nil => rfl
    | number hv => cases hv
  | bool h =>
    cases hvw with
    | bool h' => exact congrArg some (Std.TransCmp.eq_trans h h')
    | number hv => cases hv
  | string h =>
    cases hvw with
    | string h' => exact congrArg some (Std.TransCmp.eq_trans h h')
    | number hv => cases hv
  | number hu hv h =>
    cases hvw with
    | nil => cases hv
    | bool => cases hv
    | string => cases hv
    | number hv' hw h' => exact hu.eq_trans hv' hw hrounded h h'

/-! ## Order and equality -/

/-- A value that has a place in the order. -/
def IsOrdered : Value → Prop
  | .float x => x.isNaN = false
  | .list _ | .map _ => False
  | _ => True

/-- Floats are equal as numbers if they are the same number, or the two zeros. -/
theorem float_compare?_eq_eq_iff :
    Value.compare? (.float x) (.float y) = some .eq ↔
      x = y ∧ x.isNaN = false ∨ OppositeZeros (.float x) (.float y) := by
  refine compareFloats?_eq_eq_iff.trans ⟨fun h => ?_, ?_⟩
  · obtain rfl | ⟨rfl, rfl⟩ | ⟨rfl, rfl⟩ := eq_or_zeros_of_float_beq h
    · have hle : x ≤ x := float_le_iff.2 ⟨.eq, float_beq_iff.1 h, rfl⟩
      exact .inl ⟨rfl, (not_nan_of_float_le hle).1⟩
    · exact .inr (.inl ⟨rfl, rfl⟩)
    · exact .inr (.inr ⟨rfl, rfl⟩)
  · rintro (⟨rfl, hx⟩ | ⟨hx, hy⟩ | ⟨hx, hy⟩)
    · exact float_beq_self hx
    all_goals
      obtain rfl := Value.float.inj hx
      obtain rfl := Value.float.inj hy
      decide +kernel

theorem compare?_eq_eq_of_eq (h : u.IsOrdered) : u.compare? u = some .eq := by
  cases u with
  | nil => rfl
  | bool p => exact congrArg some (Std.compare_eq_iff_eq.2 rfl)
  | int n => exact congrArg some (Std.compare_eq_iff_eq.2 rfl)
  | string s => exact congrArg some (Std.compare_eq_iff_eq.2 rfl)
  | float x => exact float_compare?_eq_eq_iff.2 (.inl ⟨rfl, h⟩)
  | list => exact h.elim
  | map => exact h.elim

/-- Values are equal in the order if they are equal and have a place in it, if they are an integer
and a float of equal magnitude, or if they are the two zeros. -/
theorem compare?_eq_eq_iff :
    u.compare? v = some .eq ↔
      u = v ∧ u.IsOrdered ∨ u.type ≠ v.type ∧ u.sameAs v = true ∨ OppositeZeros u v := by
  constructor
  · intro h
    rw [← comparable_iff] at h
    cases h with
    | nil => exact .inl ⟨rfl, trivial⟩
    | bool h => exact .inl ⟨congrArg _ (Std.compare_eq_iff_eq.1 h), trivial⟩
    | string h => exact .inl ⟨congrArg _ (Std.compare_eq_iff_eq.1 h), trivial⟩
    | number hu hv h =>
      have hnumber := (hu.compare?_eq_eq_iff hv).1 h
      cases hu with
      | int n =>
        cases hv with
        | int m => exact .inl ⟨congrArg _ (hnumber.2 n m rfl rfl), trivial⟩
        | float => exact .inr (.inl ⟨nofun, hnumber.1⟩)
      | float x =>
        cases hv with
        | int => exact .inr (.inl ⟨nofun, hnumber.1⟩)
        | float =>
          refine (float_compare?_eq_eq_iff.1 h).imp ?_ .inr
          rintro ⟨rfl, hx⟩
          exact ⟨rfl, hx⟩
  · rintro (⟨rfl, h⟩ | ⟨htype, h⟩ | h)
    · exact compare?_eq_eq_of_eq h
    · obtain rfl | ⟨n, x, ⟨rfl, rfl⟩ | ⟨rfl, rfl⟩, hx⟩ := sameAs_iff.1 h
      · exact absurd rfl htype
      · exact compareFloats?_eq_eq_iff.2 hx
      · exact compareFloats?_eq_eq_iff.2 ((float_beq_comm ..).trans hx)
    · obtain ⟨rfl, rfl⟩ | ⟨rfl, rfl⟩ := id h <;> exact float_compare?_eq_eq_iff.2 (.inr h)

/-- The order of values against their equality: what is equal is so in the order if it has a place
there, and an integer and a float of equal magnitude are equal in the order too, as are the two
zeros.  The order of swapped values is the reverse.  What is below is so in a chain, and what is
equal as well; of different integers with a float between them nothing is said. -/
theorem compare?_consistent :
    (∀ u v : Value, u.compare? v = some .eq ↔
        u = v ∧ u.IsOrdered ∨ u.type ≠ v.type ∧ u.sameAs v = true ∨ OppositeZeros u v)
      ∧ (∀ u v : Value, v.compare? u = (u.compare? v).map Ordering.swap)
      ∧ (∀ u v w : Value, u.compare? v = some .lt → v.compare? w = some .lt →
        u.compare? w = some .lt)
      ∧ ∀ u v w : Value, u.compare? v = some .eq → v.compare? w = some .eq →
        ¬ RoundedAlike u v w → u.compare? w = some .eq :=
  ⟨fun _ _ => compare?_eq_eq_iff, compare?_swap, fun _ _ _ => compare?_lt_trans,
    fun _ _ _ => compare?_eq_trans⟩

/-- An integer between two floats above it and below it, and between two equal ones. -/
theorem compare?_consistent_two :
    let one := Value.float 1
    let two := Value.int 2
    let three := Value.float 3
    one.compare? two = some .lt ∧ two.compare? three = some .lt ∧ one.compare? three = some .lt
      ∧ Value.compare? (.float 2) two = some .eq ∧ ¬ RoundedAlike (.float 2) two (.float 2)
      ∧ Value.compare? (.float 2) (.float 2) = some .eq := by
  intro one two three
  have hbelow : one.compare? two = some .lt := by decide +kernel
  have habove : two.compare? three = some .lt := by decide +kernel
  have hequal : Value.compare? (.float 2) two = some .eq := by decide +kernel
  have hequal' : two.compare? (.float 2) = some .eq := by decide +kernel
  have hrounded : ¬ RoundedAlike (.float 2) two (.float 2) := fun ⟨_, _, _, h, _⟩ => nomatch h
  obtain ⟨-, -, hlt, heq⟩ := compare?_consistent
  exact ⟨hbelow, habove, hlt _ _ _ hbelow habove, hequal, hrounded,
    heq _ _ _ hequal hequal' hrounded⟩

/-- Different values may be equal in the order, and a value may have no order with itself.  Two
integers are equal in the order to the float that they are rounded to, but not to each other. -/
theorem compare?_not_consistent :
    (Value.compare? (.int 2) (.float 2) = some .eq ∧ Value.int 2 ≠ .float 2)
      ∧ (Value.compare? (.float 0) (.float (-0)) = some .eq ∧ Value.float 0 ≠ .float (-0))
      ∧ Value.compare? (.list [.string "wool"]) (.list [.string "wool"]) = none
      ∧ Value.compare? (.float (0 / 0)) (.float (0 / 0)) = none
      ∧ Value.compare? (.int 9007199254740992) (.float 9007199254740992) = some .eq
      ∧ Value.compare? (.float 9007199254740992) (.int 9007199254740993) = some .eq
      ∧ Value.compare? (.int 9007199254740992) (.int 9007199254740993) = some .lt := by
  decide +kernel

end Value

end Ensemble
