import Ensemble.Proofs.Condition.Soundness
import Ensemble.Proofs.Value.Sameness

/-!
# Values that can be matched

A condition that asks for a value is refused when no item of the schema could carry it.  For a
scalar dimension this is so exactly when the dimension does not accept the value itself, with one
exception: an integer dimension never accepts a float, although its integers may match it.
-/

namespace Ensemble

/-! ## Values that a dimension can match -/

namespace Operator

theorem holdsValue_eq_sameAs {v wanted : Value} (hv : v.type ≠ .list) :
    holdsValue v wanted = v.sameAs wanted := by
  cases v
  case list => exact absurd rfl hv
  all_goals exact Bool.or_false _

end Operator

namespace DimensionKind

/-- Whether values are neither lists nor coverages. -/
def isScalar : DimensionKind → Bool
  | .list _ | .coverageLayers _ => false
  | _ => true

/-- The type that values have, apart from the integers that stand for floats. -/
def valueType : DimensionKind → ValueType
  | .string | .choice _ => .string
  | .integer .. => .int
  | .float .. => .float
  | .boolean => .bool
  | .list _ | .coverageLayers _ => .list

end DimensionKind

namespace Dimension

variable {d : Dimension} {v wanted : Value}

/-- Whether some value that a dimension accepts matches the wanted one. -/
def CanMatch (d : Dimension) (wanted : Value) : Prop :=
  ∃ v, v ≠ .nil ∧ d.check v = .ok () ∧ Operator.holdsValue v wanted = true

/-- Whether a float is wanted of an integer dimension. -/
def WantsFloat (d : Dimension) (wanted : Value) : Prop :=
  d.kind.tag = .integer ∧ wanted.type = .float

/-- An accepted value has a type that may stand for that of the dimension. -/
theorem accepts_of_check (h : d.check v = .ok ()) : d.kind.valueType.accepts v.type = true := by
  obtain ⟨name, kind, required⟩ := d
  cases kind <;> cases v <;> first | rfl | cases h

theorem not_wantsFloat_of_check (h : d.check v = .ok ()) : ¬ d.WantsFloat v := by
  rintro ⟨htag, htype⟩
  have haccepts := accepts_of_check h
  rw [htype] at haccepts
  cases hd : d.kind with
  | integer => rw [hd] at haccepts; cases haccepts
  | _ => rw [hd] at htag; cases htag

/-- The values that a scalar dimension accepts are neither absent nor lists. -/
theorem type_of_check (hscalar : d.kind.isScalar = true) (h : d.check v = .ok ()) :
    v.type ≠ .nil ∧ v.type ≠ .list := by
  have haccepts := accepts_of_check h
  constructor <;> intro htype <;> rw [htype] at haccepts
  all_goals
    cases hd : d.kind with
    | list | coverageLayers => rw [hd] at hscalar; cases hscalar
    | _ => rw [hd] at haccepts; cases haccepts

theorem checkRange_congr_left {x y : Float} {min max : Option Float} (h : (x == y) = true) :
    checkRange x min max = .ok () ↔ checkRange y min max = .ok () := by
  simp only [checkRange_eq_ok_iff, float_lt_congr_left h, gt_iff_lt, float_lt_congr_right h]

/-- Equal numbers are accepted alike, unless a float is wanted of an integer dimension. -/
theorem check_of_equal_number {x y : Float} (hwants : ¬ d.WantsFloat wanted)
    (h : d.check v = .ok ()) (hx : v.number? = some x) (hy : wanted.number? = some y)
    (hxy : (x == y) = true) : d.check wanted = .ok () := by
  obtain ⟨name, kind, required⟩ := d
  cases kind with
  | float min max =>
    unfold check at h ⊢
    simp only [hx] at h
    simp only [hy]
    exact (checkRange_congr_left hxy).1 h
  | integer min max =>
    cases v with
    | int n =>
      cases wanted with
      | int m =>
        obtain rfl := Option.some.inj hx
        obtain rfl := Option.some.inj hy
        exact (checkRange_congr_left hxy).1 h
      | float z => exact absurd ⟨rfl, rfl⟩ hwants
      | _ => cases hy
    | _ => cases h
  | _ =>
    cases v with
    | int n => cases h
    | float z => cases h
    | _ => cases hx

/-- What matches an accepted value is accepted, unless a float is wanted of an integer dimension. -/
theorem check_of_sameAs (hwants : ¬ d.WantsFloat wanted) (hv : d.check v = .ok ())
    (h : v.sameAs wanted = true) : d.check wanted = .ok () := by
  obtain rfl | ⟨n, x, ⟨rfl, rfl⟩ | ⟨rfl, rfl⟩, hnx⟩ := Value.sameAs_iff.1 h
  · exact hv
  · exact check_of_equal_number hwants hv rfl rfl hnx
  · exact check_of_equal_number hwants hv rfl rfl ((float_beq_comm ..).trans hnx)

/-- A scalar dimension accepts what it can match, except for floats that are wanted of integers. -/
theorem check_eq_ok_iff_canMatch (hscalar : d.kind.isScalar = true) :
    d.check wanted = .ok () ↔ ¬ d.WantsFloat wanted ∧ d.CanMatch wanted := by
  constructor
  · intro h
    refine ⟨not_wantsFloat_of_check h, wanted, ?_, h, ?_⟩
    · rintro rfl
      exact (type_of_check hscalar h).1 rfl
    · rw [Operator.holdsValue_eq_sameAs (type_of_check hscalar h).2, Value.sameAs_refl]
  · rintro ⟨hwants, v, -, hv, hholds⟩
    rw [Operator.holdsValue_eq_sameAs (type_of_check hscalar hv).2] at hholds
    exact check_of_sameAs hwants hv hholds

end Dimension

/-! ## The check of a condition -/

variable {schema : Schema} {d : Dimension} {field : String} {wanted : Value} {item : Item}

namespace Operator

theorem checkReachable_eq_ok_iff {operator : String} (hscalar : d.kind.isScalar = true) :
    checkReachable operator d wanted = .ok () ↔ d.check wanted = .ok () := by
  unfold checkReachable
  cases hd : d.kind with
  | list | coverageLayers => rw [hd] at hscalar; cases hscalar
  | _ => exact mapError_eq_ok_iff

/-- What an item of the schema carries can be matched. -/
theorem canMatch_of_carries (hd : schema.dimension? field = some d)
    (hvalid : schema.validate item = .ok ()) (h : carries item field wanted = true) :
    d.CanMatch wanted := by
  unfold carries at h
  cases hv : item.attribute? field with
  | none =>
    rw [hv] at h
    cases h
  | some v =>
    rw [hv] at h
    refine ⟨v, ?_, Schema.check_of_validate hvalid hd hv, h⟩
    rintro rfl
    cases (Option.filter_eq_some_iff.1 hv).2

end Operator

theorem PairOperator.checkSchema_hasValue_iff (hd : schema.dimension? field = some d)
    (hscalar : d.kind.isScalar = true) (wanted : Value) :
    (PairOperator.hasValue field wanted).checkSchema schema = .ok () ↔ d.check wanted = .ok () := by
  rw [checkSchema, PairOperator.field, Operator.dimension_eq_ok_iff.2 hd]
  exact Operator.checkReachable_eq_ok_iff hscalar

theorem SetOperator.checkSchema_hasItemWith_iff (hd : schema.dimension? field = some d)
    (hscalar : d.kind.isScalar = true) (wanted : Value) :
    (SetOperator.hasItemWith field wanted).checkSchema schema = .ok () ↔
      d.check wanted = .ok () := by
  simp only [checkSchema, SetOperator.field?, Operator.dimension_eq_ok_iff.2 hd]
  exact Operator.checkReachable_eq_ok_iff hscalar

/-- A value that is asked for of a scalar dimension is refused if and only if nothing that the
dimension accepts matches it, or a float is wanted of an integer dimension.  Apart from the latter,
no item of the schema carries a refused value. -/
theorem checkSchema_iff_canMatch (hd : schema.dimension? field = some d)
    (hscalar : d.kind.isScalar = true) (wanted : Value) :
    ((PairOperator.hasValue field wanted).checkSchema schema = .ok () ↔
        ¬ d.WantsFloat wanted ∧ d.CanMatch wanted)
      ∧ ((SetOperator.hasItemWith field wanted).checkSchema schema = .ok () ↔
        ¬ d.WantsFloat wanted ∧ d.CanMatch wanted)
      ∧ (¬ d.WantsFloat wanted →
        (∃ e, (PairOperator.hasValue field wanted).checkSchema schema = .error e) ∨
          (∃ e, (SetOperator.hasItemWith field wanted).checkSchema schema = .error e) →
        ∀ item, schema.validate item = .ok () → Operator.carries item field wanted = false) := by
  have hpair := (PairOperator.checkSchema_hasValue_iff hd hscalar wanted).trans
    (Dimension.check_eq_ok_iff_canMatch hscalar)
  have hset := (SetOperator.checkSchema_hasItemWith_iff hd hscalar wanted).trans
    (Dimension.check_eq_ok_iff_canMatch hscalar)
  refine ⟨hpair, hset, fun hwants hrefused item hvalid => ?_⟩
  rw [← Bool.not_eq_true]
  intro hcarries
  have hmatch := Operator.canMatch_of_carries hd hvalid hcarries
  obtain ⟨e, he⟩ | ⟨e, he⟩ := hrefused
  · rw [hpair.2 ⟨hwants, hmatch⟩] at he
    cases he
  · rw [hset.2 ⟨hwants, hmatch⟩] at he
    cases he

/-- The rating of a review, in stars. -/
def rating : Dimension := ⟨"rating", .integer (some 1) (some 5), true⟩

/-- The schema of reviews. -/
def reviews : Schema := ⟨"reviews", "1", [rating], .reject, by decide⟩

/-- A review with a rating. -/
def review (stars : Value) : Item where
  id := ⟨"review"⟩
  name := "review"
  attributes := .ofList [("rating", stars)]

/-- No review has nine stars, and to ask for them is refused. -/
theorem checkSchema_iff_canMatch_reviews :
    reviews.dimension? "rating" = some rating ∧ rating.kind.isScalar = true
      ∧ ¬ rating.WantsFloat (.int 9)
      ∧ (∃ e, (PairOperator.hasValue "rating" (.int 9)).checkSchema reviews = .error e)
      ∧ (∀ item, reviews.validate item = .ok () → Operator.carries item "rating" (.int 9) = false)
      ∧ (SetOperator.hasItemWith "rating" (.int 4)).checkSchema reviews = .ok () := by
  have hd : reviews.dimension? "rating" = some rating := rfl
  have hwants : ¬ rating.WantsFloat (.int 9) := fun h => nomatch h.2
  have hrefused : ∃ e, (PairOperator.hasValue "rating" (.int 9)).checkSchema reviews = .error e :=
    exists_error_iff.2 (by decide +kernel)
  obtain ⟨-, -, hnone⟩ := checkSchema_iff_canMatch hd rfl (.int 9)
  obtain ⟨-, hset, -⟩ := checkSchema_iff_canMatch hd rfl (.int 4)
  have hfour : rating.CanMatch (.int 4) := ⟨.int 4, nofun, by decide +kernel, by decide +kernel⟩
  have haccepted := hset.2 ⟨(fun h => nomatch h.2), hfour⟩
  exact ⟨hd, rfl, hwants, hrefused, hnone hwants (.inl hrefused), haccepted⟩

/-- A review with three stars carries the float three, but to ask for it is refused. -/
theorem matching_float_refused :
    reviews.validate (review (.int 3)) = .ok ()
      ∧ Operator.carries (review (.int 3)) "rating" (.float 3) = true
      ∧ ¬ ((PairOperator.hasValue "rating" (.float 3)).checkSchema reviews = .ok () ↔
        rating.CanMatch (.float 3))
      ∧ ¬ ((SetOperator.hasItemWith "rating" (.float 3)).checkSchema reviews = .ok () ↔
        rating.CanMatch (.float 3)) := by
  have hmatch : rating.CanMatch (.float 3) := ⟨.int 3, nofun, by decide +kernel, by decide +kernel⟩
  refine ⟨by decide +kernel, by decide +kernel, fun h => ?_, fun h => ?_⟩
  · exact absurd (h.2 hmatch) (by decide +kernel)
  · exact absurd (h.2 hmatch) (by decide +kernel)

end Ensemble
