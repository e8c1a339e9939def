import Ensemble.Proofs.Condition.Uniqueness
import Ensemble.Proofs.Value.Distance

/-!
# The spread of a set and the distances of its pairs

The spread of some numbers is the difference of their extremes, which is one of their distances, and
the largest one.  So a set of items keeps a maximal spread if and only if all its pairs keep it as a
threshold.  What is not a number is left out of the extremes, though it has no distance to any other
number, and an infinite number has none to itself.
-/

namespace Ensemble

/-! ## Extremes and distances -/

section

variable {x y r : Float} {xs : List Float}

/-- Two numbers have a distance up to a bound. -/
def Near (r x y : Float) : Prop := (x - y).abs ≤ r

theorem Near.symm (h : Near r x y) : Near r y x := by
  unfold Near
  rwa [float_abs_sub_comm]

theorem least_le (hnan : ∀ z ∈ x :: xs, z.isNaN = false) :
    xs.foldl lesserFloat x ∈ x :: xs ∧ ∀ z ∈ x :: xs, xs.foldl lesserFloat x ≤ z := by
  obtain ⟨hmem, hleast⟩ : IsExtreme rank (x :: xs) (xs.foldl lesserFloat x) :=
    isExtreme_foldl isExtreme_lesserFloat
  refine ⟨hmem, fun z hz => ?_⟩
  obtain ⟨hnum, hrank⟩ := hleast z hz (hnan z hz)
  exact (float_le_iff_rank hnum (hnan z hz)).2 hrank

theorem le_greatest (hnan : ∀ z ∈ x :: xs, z.isNaN = false) :
    xs.foldl greaterFloat x ∈ x :: xs ∧ ∀ z ∈ x :: xs, z ≤ xs.foldl greaterFloat x := by
  obtain ⟨hmem, hgreatest⟩ : IsExtreme (OrderDual.toDual ∘ rank) (x :: xs)
      (xs.foldl greaterFloat x) := isExtreme_foldl isExtreme_greaterFloat
  refine ⟨hmem, fun z hz => ?_⟩
  obtain ⟨hnum, hrank⟩ := hgreatest z hz (hnan z hz)
  exact (float_le_iff_rank (hnan z hz) hnum).2 hrank

/-- Every two numbers, also one and itself, are as near as every two at different places. -/
theorem pairwise_near_iff (hfinite : ∀ z ∈ xs, z.isFinite = true) (hr : 0 ≤ r) :
    xs.Pairwise (Near r) ↔ ∀ y ∈ xs, ∀ z ∈ xs, Near r y z := by
  constructor
  · intro h y hy z hz
    have hself : ∀ z ∈ xs, Near r z z := fun z hz => float_abs_sub_self_le (hfinite z hz) hr
    exact List.Pairwise.forall_of_forall_of_flip hself h (h.imp Near.symm) hy hz
  · exact List.pairwise_of_forall_mem_list

theorem range_le_iff_of_finite (hfinite : ∀ z ∈ x :: xs, z.isFinite = true) (hr : 0 ≤ r) :
    xs.foldl greaterFloat x - xs.foldl lesserFloat x ≤ r ↔
      (x :: xs).Pairwise (Near r) := by
  have hnan : ∀ z ∈ x :: xs, z.isNaN = false := fun z hz => isNaN_of_isFinite (hfinite z hz)
  obtain ⟨hleast, hle⟩ := least_le hnan
  obtain ⟨hgreatest, hge⟩ := le_greatest hnan
  rw [pairwise_near_iff hfinite hr]
  constructor
  · intro h y hy z hz
    exact float_abs_sub_le (hfinite _ hleast) (hfinite _ hgreatest) (hfinite y hy) (hfinite z hz)
      (hle y hy) (hge y hy) (hle z hz) (hge z hz) h
  · intro h
    exact float_sub_le_of_abs (hfinite _ hleast) (hfinite _ hgreatest) (hge _ hleast)
      (h _ hgreatest _ hleast)

/-- With an infinite number among several ones, neither the range nor all distances are finite. -/
theorem not_range_le_of_infinite (hnan : ∀ z ∈ x :: xs, z.isNaN = false)
    (hy : y ∈ x :: xs) (hinfinite : y.isFinite = false) (hr : r.isFinite = true) :
    ¬ xs.foldl greaterFloat x - xs.foldl lesserFloat x ≤ r := by
  obtain ⟨hleast, hle⟩ := least_le hnan
  obtain ⟨-, hge⟩ := le_greatest hnan
  refine not_float_sub_le (hge _ hleast) ?_ hr
  by_contra h
  rw [not_or, Bool.not_eq_false, Bool.not_eq_false] at h
  have hfinite := isFinite_of_between h.2 h.1 (hle y hy) (hge y hy)
  rw [hinfinite] at hfinite
  cases hfinite

theorem not_pairwise_of_infinite (hlength : 2 ≤ xs.length) (hy : y ∈ xs)
    (hinfinite : y.isFinite = false) (hr : r.isFinite = true) :
    ¬ xs.Pairwise (Near r) := by
  intro h
  obtain ⟨before, after, rfl⟩ := List.append_of_mem hy
  rw [List.pairwise_append, List.pairwise_cons] at h
  obtain ⟨-, ⟨hafter, -⟩, hbefore⟩ := h
  cases before with
  | cons z before =>
    have hle := hbefore z List.mem_cons_self y List.mem_cons_self
    exact not_float_abs_sub_le (.inr hinfinite) hr hle
  | nil =>
    cases after with
    | nil => exact absurd hlength (Nat.not_le.2 Nat.one_lt_two)
    | cons z after =>
      exact not_float_abs_sub_le (.inl hinfinite) hr (hafter z List.mem_cons_self)

/-- The range of several numbers is as large as their largest distance. -/
theorem range_le_iff (hnan : ∀ z ∈ x :: xs, z.isNaN = false) (hr : 0 ≤ r)
    (h : (∀ z ∈ x :: xs, z.isFinite = true) ∨ r.isFinite = true ∧ 2 ≤ (x :: xs).length) :
    xs.foldl greaterFloat x - xs.foldl lesserFloat x ≤ r ↔
      (x :: xs).Pairwise (Near r) := by
  by_cases hfinite : ∀ z ∈ x :: xs, z.isFinite = true
  · exact range_le_iff_of_finite hfinite hr
  · obtain ⟨hrfinite, hlength⟩ := h.resolve_left hfinite
    obtain ⟨y, hy, hinfinite⟩ : ∃ y ∈ x :: xs, y.isFinite = false := by
      simpa only [not_forall, exists_prop, Bool.not_eq_true] using hfinite
    exact iff_of_false (not_range_le_of_infinite hnan hy hinfinite hrfinite)
      (not_pairwise_of_infinite hlength hy hinfinite hrfinite)

end

namespace SetOperator

variable {items : List Item} {field : String} {r : Float} {schema : Schema} {d : Dimension}

/-! ## Pairs -/

theorem verdict_formalityCompatible_iff {a b : Item} {v w : Value}
    (ha : a.attribute? field = some v) (hb : b.attribute? field = some w) :
    verdict ((PairOperator.formalityCompatible field r).evaluate ⟨a, b⟩) = some true ↔
      ∃ x y, v.number? = some x ∧ w.number? = some y ∧ Near r x y := by
  unfold PairOperator.evaluate PairOperator.compareNumbers Operator.number?
  simp only [ha, hb]
  cases hv : v.number? with
  | none => exact iff_of_false nofun nofun
  | some x =>
    cases hw : w.number? with
    | none => exact iff_of_false nofun nofun
    | some y =>
      show some (decide ((x - y).abs ≤ r)) = some true ↔ _
      simp only [Option.some.injEq, decide_eq_true_iff, exists_and_left, exists_eq_left', Near]

theorem everyTwo_formalityCompatible_iff (h : ∀ v ∈ carried field items, v.number?.isSome) :
    EveryTwo field items
        (fun a b =>
          verdict ((PairOperator.formalityCompatible field r).evaluate ⟨a, b⟩) = some true) ↔
      ((carried field items).filterMap Value.number?).Pairwise (Near r) := by
  rw [everyTwo_iff ?_ fun a b v w ha hb => verdict_formalityCompatible_iff ha hb,
    List.pairwise_filterMap]
  · refine List.Pairwise.iff_of_mem fun {v w} hv hw => ?_
    obtain ⟨x, hx⟩ := Option.isSome_iff_exists.1 (h v hv)
    obtain ⟨y, hy⟩ := Option.isSome_iff_exists.1 (h w hw)
    simp only [hx, hy, Option.some.injEq, forall_eq', exists_and_left, exists_eq_left']
  · rintro v w ⟨x, y, hx, hy, hnear⟩
    exact ⟨y, x, hy, hx, hnear.symm⟩

/-! ## Spreads -/

/-- No item carries what is not a number.  If one carries an infinite number, then there are several
carriers, and the bound is finite. -/
structure Comparable (field : String) (items : List Item) (r : Float) : Prop where
  number : ∀ v ∈ carried field items, ∀ x, v.number? = some x → x.isNaN = false
  finite : (∀ v ∈ carried field items, ∀ x, v.number? = some x → x.isFinite = true) ∨
    r.isFinite = true ∧ 2 ≤ carrierCount field items

/-- A set of items of a schema keeps a maximal spread if and only if every two carriers keep it as a
threshold of their distance. -/
theorem spread_agrees (hd : schema.dimension? field = some d) (hnumeric : d.kind.isNumeric = true)
    (hitems : ∀ a ∈ items, schema.validate a = .ok ())
    (hcarried : ∃ a ∈ items, (a.attribute? field).isSome) (hr : 0 ≤ r)
    (hcomparable : Comparable field items r) :
    ∃ b, verdict ((formalityRange field r).evaluate items) = some b ∧
      (b = true ↔ EveryTwo field items fun x y =>
        verdict ((PairOperator.formalityCompatible field r).evaluate ⟨x, y⟩) = some true) := by
  have hnumber : ∀ v ∈ carried field items, v.number?.isSome := by
    intro v hv
    obtain ⟨x, hx⟩ := Dimension.exists_number hnumeric (check_of_mem_carried hd hitems hv)
    rw [hx]
    rfl
  obtain ⟨a, ha, hasome⟩ := hcarried
  have hempty : items.isEmpty = false := by
    rw [List.isEmpty_eq_false_iff]
    exact List.ne_nil_of_mem ha
  rw [verdict_formalityRange, hempty, numbers_eq, if_pos hnumber,
    everyTwo_formalityCompatible_iff hnumber]
  have hlength := List.filterMap_length_eq_length.2 hnumber
  have hread : ∀ x ∈ (carried field items).filterMap Value.number?,
      ∃ v ∈ carried field items, v.number? = some x := fun x hx => List.mem_filterMap.1 hx
  rw [length_carried] at hlength
  generalize (carried field items).filterMap Value.number? = xs at hlength hread
  cases xs with
  | nil =>
    have hpos : 0 < carrierCount field items := List.countP_pos_iff.2 ⟨a, ha, hasome⟩
    exact absurd hlength (Nat.ne_of_lt hpos)
  | cons x xs =>
    refine ⟨_, rfl, decide_eq_true_iff.trans (range_le_iff (fun z hz => ?_) hr ?_)⟩
    · obtain ⟨v, hv, hz⟩ := hread z hz
      exact hcomparable.number v hv z hz
    · refine hcomparable.finite.imp (fun hfinite z hz => ?_) fun h => ⟨h.1, hlength ▸ h.2⟩
      obtain ⟨v, hv, hz⟩ := hread z hz
      exact hfinite v hv z hz

theorem spread_agrees_weights :
    let items := [weight "a" (.int 2), weight "b" (.float 3.5), weight "c" (.float (1 / 0))]
    let d : Dimension := ⟨"grams", .float none none, true⟩
    weights.dimension? "grams" = some d ∧ d.kind.isNumeric = true ∧
      (∀ a ∈ items, weights.validate a = .ok ()) ∧
      (∃ a ∈ items, (a.attribute? "grams").isSome) ∧ (0 : Float) ≤ 2 ∧
      Comparable "grams" items 2 ∧
      ∃ b, verdict ((formalityRange "grams" 2).evaluate items) = some b ∧
        (b = true ↔ EveryTwo "grams" items fun x y =>
          verdict ((PairOperator.formalityCompatible "grams" 2).evaluate ⟨x, y⟩) = some true) := by
  intro items d
  have hd : weights.dimension? "grams" = some d := by rfl
  have hitems : ∀ a ∈ items, weights.validate a = .ok () := by decide +kernel
  have hcarried : ∃ a ∈ items, (a.attribute? "grams").isSome := by decide +kernel
  have hr : (0 : Float) ≤ 2 := by decide +kernel
  have hcomparable : Comparable "grams" items 2 := by
    have hnumbers : ∀ v ∈ carried "grams" items, v.number?.all (!·.isNaN) = true := by
      decide +kernel
    refine ⟨fun v hv x hx => ?_, .inr ⟨by decide +kernel, by decide +kernel⟩⟩
    simpa [hx] using hnumbers v hv
  exact ⟨hd, rfl, hitems, hcarried, hr, hcomparable,
    spread_agrees hd rfl hitems hcarried hr hcomparable⟩

/-- Spread and distances come apart at what is not a number, at a single infinite number, and at
infinite numbers under an infinite bound. -/
theorem spread_disagrees :
    let one := weight "a" (.float 1)
    let unknown := weight "b" (.float (0 / 0))
    let infinite := weight "c" (.float (1 / 0))
    let agrees := fun (items : List Item) (r : Float) =>
      verdict ((formalityRange "grams" r).evaluate items) = some true ↔
        EveryTwo "grams" items fun x y =>
          verdict ((PairOperator.formalityCompatible "grams" r).evaluate ⟨x, y⟩) = some true
    (∀ a ∈ [one, unknown, infinite], weights.validate a = .ok ()) ∧ ¬ agrees [one, unknown] 1 ∧
      ¬ agrees [infinite] 1 ∧ ¬ agrees [infinite, infinite, one] (1 / 0) := by
  intro one unknown infinite agrees
  have hvalid : ∀ a ∈ [one, unknown, infinite], weights.validate a = .ok () := by decide +kernel
  refine ⟨hvalid, fun h => ?_, fun h => ?_, fun h => ?_⟩
  · have hrange : verdict ((formalityRange "grams" 1).evaluate [one, unknown]) = some true := by
      decide +kernel
    have hfar : verdict ((PairOperator.formalityCompatible "grams" 1).evaluate ⟨one, unknown⟩)
        = some false := by
      decide +kernel
    cases hfar.symm.trans (h.1 hrange 0 1 one unknown (by decide) rfl rfl rfl rfl)
  · have hrange : verdict ((formalityRange "grams" 1).evaluate [infinite]) = some false := by
      decide +kernel
    refine Bool.noConfusion (Option.some.inj (hrange.symm.trans (h.2 ?_)))
    intro i j a b hij ha hb
    obtain ⟨hi, -⟩ := List.getElem?_eq_some_iff.1 ha
    obtain ⟨hj, -⟩ := List.getElem?_eq_some_iff.1 hb
    rw [List.length_singleton] at hi hj
    omega
  · have hrange : verdict ((formalityRange "grams" (1 / 0)).evaluate [infinite, infinite, one])
        = some true := by
      decide +kernel
    have hfar : verdict ((PairOperator.formalityCompatible "grams" (1 / 0)).evaluate
        ⟨infinite, infinite⟩) = some false := by
      decide +kernel
    cases hfar.symm.trans (h.1 hrange 0 1 infinite infinite (by decide) rfl rfl rfl rfl)

end SetOperator

end Ensemble
