import Ensemble.Catalog.Basic
import Ensemble.Proofs.Except
import Ensemble.Proofs.Value.Float

/-!
# What a schema accepts

An item that a schema accepts carries under each dimension nothing or a value that the dimension
accepts, and such a value can be read in the way that the kind of the dimension suggests: as a
number, as a list or as a coverage.  Two schemas that agree accept the same items, although their
bounds may be zeros of different signs.
-/

namespace Ensemble

/-! ## Values of a dimension -/

namespace Dimension

variable {d d' : Dimension} {v : Value}

theorem exists_number (hkind : d.kind.isNumeric = true) (h : d.check v = .ok ()) :
    ∃ x, v.number? = some x := by
  unfold check at h
  cases hd : d.kind with
  | integer min max =>
    rw [hd] at h
    cases v with
    | int n => exact ⟨_, rfl⟩
    | _ => cases h
  | float min max =>
    rw [hd] at h
    cases hx : v.number? with
    | some x => exact ⟨x, rfl⟩
    | none =>
      simp only [hx] at h
      cases h
  | _ =>
    rw [hd] at hkind
    cases hkind

theorem exists_list {item : ScalarKind} (hkind : d.kind = .list item) (h : d.check v = .ok ()) :
    ∃ items, v = .list items := by
  unfold check at h
  rw [hkind] at h
  cases v with
  | list items => exact ⟨items, rfl⟩
  | _ => cases h

theorem exists_coverage {vocabulary : Option Vocabulary}
    (hkind : d.kind = .coverageLayers vocabulary) (h : d.check v = .ok ()) :
    ∃ coverage, Coverage.parse v = .ok coverage := by
  unfold check at h
  rw [hkind] at h
  obtain ⟨coverage, hparse, -⟩ := bind_eq_ok_iff.1 h
  exact ⟨coverage, hparse⟩

/-! ## Bounds -/

theorem checkRange_eq_ok_iff {x : Float} {min max : Option Float} :
    checkRange x min max = .ok () ↔ (∀ m ∈ min, ¬ x < m) ∧ ∀ m ∈ max, ¬ x > m := by
  unfold checkRange
  rcases min with _ | m <;> rcases max with _ | n
  case none.none => simp [pure_eq_ok]
  case none.some => by_cases hn : x > n <;> simp [hn, pure_eq_ok, throw_eq_error]
  case some.none => by_cases hm : x < m <;> simp [hm, pure_eq_ok, throw_eq_error]
  case some.some =>
    by_cases hm : x < m
    · simp [hm, throw_eq_error]
    · by_cases hn : x > n <;> simp [hm, hn, pure_eq_ok, throw_eq_error]

/-- Bounds that agree are equal as numbers, or missing alike. -/
theorem forall_bound_congr {min min' : Option Float} (h : (min == min') = true) {P : Float → Prop}
    (hP : ∀ m m', (m == m') = true → (P m ↔ P m')) : (∀ m ∈ min, P m) ↔ ∀ m ∈ min', P m := by
  cases min with
  | none =>
    cases min' with
    | none => rfl
    | some m' => cases h
  | some m =>
    cases min' with
    | none => cases h
    | some m' =>
      simp only [Option.mem_def, Option.some.injEq, forall_eq']
      exact hP m m' h

theorem checkRange_congr {x : Float} {min min' max max' : Option Float}
    (hmin : (min == min') = true) (hmax : (max == max') = true) :
    checkRange x min max = .ok () ↔ checkRange x min' max' = .ok () := by
  rw [checkRange_eq_ok_iff, checkRange_eq_ok_iff]
  refine and_congr (forall_bound_congr hmin fun m m' h => ?_)
    (forall_bound_congr hmax fun m m' h => ?_)
  · rw [float_lt_congr_right h]
  · exact not_congr (float_lt_congr_left h x)

theorem parts_of_beq (h : (d == d') = true) :
    d.name = d'.name ∧ (d.kind == d'.kind) = true ∧ d.required = d'.required := by
  have hparts : (d.name == d'.name && (d.kind == d'.kind && d.required == d'.required)) = true := h
  rw [Bool.and_eq_true, Bool.and_eq_true] at hparts
  exact ⟨eq_of_beq hparts.1, hparts.2.1, eq_of_beq hparts.2.2⟩

/-- Dimensions that agree accept the same values. -/
theorem check_eq_ok_congr (h : (d == d') = true) : d.check v = .ok () ↔ d'.check v = .ok () := by
  obtain ⟨-, hkinds, -⟩ := parts_of_beq h
  obtain ⟨name, kind, required⟩ := d
  obtain ⟨name', kind', required'⟩ := d'
  cases kind <;> cases kind'
  case string.string => rfl
  case boolean.boolean => rfl
  case integer.integer min max min' max' =>
    have hbounds : (min == min' && max == max') = true := hkinds
    rw [Bool.and_eq_true, beq_iff_eq, beq_iff_eq] at hbounds
    obtain ⟨rfl, rfl⟩ := hbounds
    rfl
  case float.float min max min' max' =>
    have hbounds : (min == min' && max == max') = true := hkinds
    rw [Bool.and_eq_true] at hbounds
    unfold check
    dsimp only
    cases v.number? with
    | none => simp
    | some x => exact checkRange_congr hbounds.1 hbounds.2
  case choice.choice allowed allowed' =>
    obtain rfl : allowed = allowed' := eq_of_beq hkinds
    rfl
  case list.list item item' =>
    obtain rfl : item = item' := eq_of_beq hkinds
    rfl
  case coverageLayers.coverageLayers vocabulary vocabulary' =>
    obtain rfl : vocabulary = vocabulary' := eq_of_beq hkinds
    rfl
  all_goals cases hkinds

end Dimension

/-! ## Items of a schema -/

namespace Schema

variable {schema : Schema} {item : Item} {e : Error}

theorem dimensionViolation?_eq_none_iff {attributes : Attributes} {d : Dimension} :
    dimensionViolation? attributes d = none ↔
      (d.required = true → ((attributes.get? d.name).filter fun v => !v.isNil).isSome) ∧
        ∀ v ∈ (attributes.get? d.name).filter fun v => !v.isNil, d.check v = .ok () := by
  unfold dimensionViolation?
  cases (attributes.get? d.name).filter fun v => !v.isNil with
  | none => simp
  | some v =>
    simp only [Option.mem_def, Option.some.injEq, forall_eq']
    cases d.check v with
    | ok u => simp
    | error violation => simp

theorem validate_eq_ok_iff :
    schema.validate item = .ok () ↔
      (∀ d ∈ schema.dimensions, dimensionViolation? item.attributes d = none) ∧
        schema.undeclaredViolations item.attributes = [] := by
  unfold validate validateAttributes
  rw [mapError_eq_ok_iff, ← List.filterMap_eq_nil_iff, ← List.append_eq_nil_iff, ← violations]
  cases schema.violations item.attributes with
  | nil => simp
  | cons e rest => simp

theorem exists_of_mem_violations {attributes : Attributes} (h : e ∈ schema.violations attributes) :
    ∃ name violation, e = violationError name violation := by
  unfold violations at h
  rcases List.mem_append.1 h with h | h
  · obtain ⟨d, -, hd⟩ := List.mem_filterMap.1 h
    unfold dimensionViolation? at hd
    split at hd
    · split at hd
      · exact ⟨_, _, (Option.some.inj hd).symm⟩
      · cases hd
    · split at hd
      · cases hd
      · exact ⟨_, _, (Option.some.inj hd).symm⟩
  · unfold undeclaredViolations at h
    split at h
    · obtain ⟨key, -, rfl⟩ := List.mem_map.1 h
      exact ⟨_, _, rfl⟩
    · cases h

/-- What is wrong with an item is that it violates the schema. -/
theorem exists_violation (h : schema.validate item = .error e) :
    ∃ name violation, e.cause = .schemaViolation name violation := by
  unfold validate validateAttributes at h
  cases hviolations : schema.violations item.attributes with
  | nil =>
    rw [hviolations] at h
    cases h
  | cons first rest =>
    rw [hviolations] at h
    obtain rfl := Except.error.inj h
    have hfirst : first ∈ schema.violations item.attributes := hviolations ▸ List.mem_cons_self
    obtain ⟨name, violation, rfl⟩ := exists_of_mem_violations hfirst
    exact ⟨name, violation, rfl⟩

/-- An item that is accepted carries values that its dimensions accept. -/
theorem check_of_validate {field : String} {d : Dimension} {v : Value}
    (h : schema.validate item = .ok ()) (hd : schema.dimension? field = some d)
    (hv : item.attribute? field = some v) : d.check v = .ok () := by
  have hname : d.name = field := by simpa using List.find?_some hd
  have hnone := (validate_eq_ok_iff.1 h).1 d (List.mem_of_find?_eq_some hd)
  refine (dimensionViolation?_eq_none_iff.1 hnone).2 v ?_
  rw [hname]
  exact hv

/-! ## Schemas that agree -/

theorem forall₂_of_beq {α : Type} [BEq α] :
    ∀ {as bs : List α}, (as == bs) = true → List.Forall₂ (fun a b => (a == b) = true) as bs
  | [], [], _ => .nil
  | [], _ :: _, h => nomatch h
  | _ :: _, [], h => nomatch h
  | a :: as, b :: bs, h => by
    rw [List.cons_beq_cons, Bool.and_eq_true] at h
    exact .cons h.1 (forall₂_of_beq h.2)

variable {other : Schema}

theorem dimensions_agree (h : (schema == other) = true) :
    List.Forall₂ (fun d d' : Dimension => (d == d') = true) schema.dimensions other.dimensions ∧
      schema.undeclared = other.undeclared := by
  have hparts : (schema.name == other.name && schema.version == other.version
      && schema.dimensions == other.dimensions && schema.undeclared == other.undeclared) = true := h
  rw [Bool.and_eq_true, Bool.and_eq_true] at hparts
  exact ⟨forall₂_of_beq hparts.1.2, eq_of_beq hparts.2⟩

theorem dimensionViolation?_congr {attributes : Attributes} {d d' : Dimension}
    (h : (d == d') = true) :
    dimensionViolation? attributes d = none ↔ dimensionViolation? attributes d' = none := by
  obtain ⟨hname, -, hrequired⟩ := Dimension.parts_of_beq h
  simp only [dimensionViolation?_eq_none_iff, hname, hrequired, Dimension.check_eq_ok_congr h]

theorem forall_dimension_congr {ds ds' : List Dimension} {P : Dimension → Prop}
    (h : List.Forall₂ (fun d d' : Dimension => (d == d') = true) ds ds')
    (hP : ∀ d d' : Dimension, (d == d') = true → (P d ↔ P d')) :
    (∀ d ∈ ds, P d) ↔ ∀ d ∈ ds', P d := by
  induction h with
  | nil => simp
  | cons hd _ ih => rw [List.forall_mem_cons, List.forall_mem_cons, hP _ _ hd, ih]

/-- Schemas that agree accept the same items. -/
theorem validate_eq_ok_congr (h : (schema == other) = true) :
    schema.validate item = .ok () ↔ other.validate item = .ok () := by
  obtain ⟨hdimensions, hundeclared⟩ := dimensions_agree h
  have hnames : schema.dimensions.map (·.name) = other.dimensions.map (·.name) := by
    rw [← List.forall₂_eq_eq_eq, List.forall₂_map_left_iff, List.forall₂_map_right_iff]
    exact hdimensions.imp fun d d' hd => (Dimension.parts_of_beq hd).1
  have hdeclares : ∀ key, schema.declares key = other.declares key := by
    intro key
    rw [Bool.eq_iff_iff, declares_iff, declares_iff, hnames]
  rw [validate_eq_ok_iff, validate_eq_ok_iff]
  refine and_congr ?_ ?_
  · exact forall_dimension_congr hdimensions fun d d' hd => dimensionViolation?_congr hd
  · unfold undeclaredViolations
    simp only [hundeclared, hdeclares]

end Schema

end Ensemble
