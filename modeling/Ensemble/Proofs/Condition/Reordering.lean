import Ensemble.Proofs.Condition.Soundness
import Ensemble.Proofs.Condition.Symmetry
import Ensemble.Proofs.Value.Extremes
import Mathlib.Data.List.Perm.Lattice

/-!
# Reordering a set of items

An operator over a set of items has the same verdict on the items in any order, with one exception.
The number of distinct values is counted by keeping a value unless an earlier one is the same, and
sameness of numbers is not transitive: an integer is the same as the float that it is rounded to,
and so are its neighbours.  Where sameness is transitive on the values that the items carry, the
count does not depend on the order either.  Among values without floats sameness is equality.
-/

namespace Ensemble

/-! ## Keeping one of each -/

section

variable {α β : Type} {r : α → α → Bool} {key : α → β} {xs ys : List α}

/-- Where sameness is having the same key, one element is kept for each key. -/
theorem eraseDupsBy_of_key (h : ∀ a ∈ xs, ∀ b ∈ xs, (r b a = true ↔ key b = key a)) :
    ((xs.eraseDupsBy r).map key).Nodup ∧
      ∀ k, k ∈ (xs.eraseDupsBy r).map key ↔ k ∈ xs.map key := by
  induction hlen : xs.length using Nat.strongRecOn generalizing xs with
  | ind n ih =>
    cases xs with
    | nil => exact ⟨List.nodup_nil, fun k => Iff.rfl⟩
    | cons a as =>
      -- What goes on after an element is a part of the tail, so the induction is on the length.
      rw [List.eraseDupsBy_cons, List.map_cons, List.map_cons, List.nodup_cons]
      have hsub : (as.filter fun b => decide (r b a = false)) ⊆ as := List.filter_subset_self _
      have hlt : (as.filter fun b => decide (r b a = false)).length < n := by
        have hle := List.length_filter_le (fun b => decide (r b a = false)) as
        rw [List.length_cons] at hlen
        omega
      have hrest := fun b hb c hc => h b (.tail _ (hsub hb)) c (.tail _ (hsub hc))
      obtain ⟨hnodup, hmem⟩ := ih _ hlt hrest rfl
      have hkept : ∀ b ∈ as, (r b a = false ↔ key b ≠ key a) := by
        intro b hb
        rw [ne_eq, ← h a List.mem_cons_self b (.tail _ hb), Bool.not_eq_true]
      refine ⟨⟨?_, hnodup⟩, fun k => ?_⟩
      · rw [hmem, List.mem_map]
        rintro ⟨b, hb, hkey⟩
        obtain ⟨hb, hr⟩ := List.mem_filter.1 hb
        exact (hkept b hb).1 (of_decide_eq_true hr) hkey
      · rw [List.mem_cons, List.mem_cons, hmem, List.mem_map, List.mem_map]
        constructor
        · rintro (rfl | ⟨b, hb, rfl⟩)
          · exact .inl rfl
          · exact .inr ⟨b, hsub hb, rfl⟩
        · rintro (rfl | ⟨b, hb, rfl⟩)
          · exact .inl rfl
          · by_cases hkey : key b = key a
            · exact .inl hkey
            · exact .inr ⟨b, List.mem_filter.2 ⟨hb, decide_eq_true ((hkept b hb).2 hkey)⟩, rfl⟩

theorem length_eraseDupsBy_perm (hperm : xs.Perm ys)
    (h : ∀ a ∈ xs, ∀ b ∈ xs, (r b a = true ↔ key b = key a)) :
    (xs.eraseDupsBy r).length = (ys.eraseDupsBy r).length := by
  obtain ⟨hx, hmemx⟩ := eraseDupsBy_of_key h
  have h' : ∀ a ∈ ys, ∀ b ∈ ys, (r b a = true ↔ key b = key a) := fun a ha b hb =>
    h a (hperm.mem_iff.2 ha) b (hperm.mem_iff.2 hb)
  obtain ⟨hy, hmemy⟩ := eraseDupsBy_of_key h'
  have hkeys := (List.perm_ext_iff_of_nodup hx hy).2 fun k => by
    rw [hmemx, hmemy, (hperm.map key).mem_iff]
  have hlength := hkeys.length_eq
  rwa [List.length_map, List.length_map] at hlength

end

/-! ## Sameness of values -/

namespace Value

/-- Sameness is an equivalence on the values of a list. -/
def Classified (vs : List Value) : Prop :=
  ∀ u ∈ vs, ∀ v ∈ vs, ∀ w ∈ vs, u.sameAs v = true → v.sameAs w = true → u.sameAs w = true

theorem classified_of_no_float {vs : List Value} (h : ∀ v ∈ vs, v.type ≠ .float) :
    Classified vs := by
  intro u hu v hv w hw huv hvw
  rw [sameAs_iff_eq (h u hu) (h v hv)] at huv
  rw [sameAs_iff_eq (h v hv) (h w hw)] at hvw
  rw [huv, hvw]
  exact sameAs_refl w

/-- The first value of a list that is the same as a given one stands for its class. -/
theorem Classified.sameAs_iff_find? {vs : List Value} (h : Classified vs) {u v : Value}
    (hu : u ∈ vs) (hv : v ∈ vs) :
    v.sameAs u = true ↔ vs.find? (·.sameAs v) = vs.find? (·.sameAs u) := by
  constructor
  · intro hvu
    have hsame : ∀ w ∈ vs, w.sameAs v = w.sameAs u := by
      intro w hw
      rw [Bool.eq_iff_iff]
      constructor
      · intro hwv
        exact h w hw v hv u hu hwv hvu
      · intro hwu
        rw [sameAs_comm] at hvu
        exact h w hw u hu v hv hwu hvu
    rw [← List.head?_filter, ← List.head?_filter, List.filter_congr hsame]
  · intro hfind
    obtain ⟨w, hw⟩ : ∃ w, vs.find? (·.sameAs v) = some w :=
      Option.isSome_iff_exists.1 (List.find?_isSome.2 ⟨v, hv, sameAs_refl v⟩)
    have hmem := List.mem_of_find?_eq_some hw
    have hwv : w.sameAs v = true := List.find?_some (p := fun w : Value => w.sameAs v) hw
    have hw' := hfind.symm.trans hw
    have hwu : w.sameAs u = true := List.find?_some (p := fun w : Value => w.sameAs u) hw'
    rw [sameAs_comm] at hwv
    exact h v hv w hmem u hu hwv hwu

theorem Classified.length_eraseDupsBy {us vs : List Value} (h : Classified us)
    (hperm : us.Perm vs) :
    (us.eraseDupsBy fun v earlier => earlier.sameAs v).length
      = (vs.eraseDupsBy fun v earlier => earlier.sameAs v).length := by
  have hkey : ∀ u ∈ us, ∀ v ∈ us,
      (u.sameAs v = true ↔ us.find? (·.sameAs v) = us.find? (·.sameAs u)) := by
    intro u hu v hv
    rw [sameAs_comm]
    exact h.sameAs_iff_find? hu hv
  exact length_eraseDupsBy_perm hperm hkey

end Value

/-! ## Operators -/

namespace SetOperator

variable {items items' : List Item} {field : String} {schema : Schema} {op : SetOperator}

/-- The values that the items carry under an attribute. -/
def carried (field : String) (items : List Item) : List Value :=
  items.filterMap (·.attribute? field)

theorem carried_cons_none {a : Item} (h : a.attribute? field = none) :
    carried field (a :: items) = carried field items := List.filterMap_cons_none h

theorem carried_cons_some {a : Item} {v : Value} (h : a.attribute? field = some v) :
    carried field (a :: items) = v :: carried field items := List.filterMap_cons_some h

theorem map_carriers (field : String) (items : List Item) :
    (carriers field items).map (·.1) = carried field items := by
  unfold carriers carried
  rw [List.map_filterMap]
  refine List.filterMap_congr fun item _ => ?_
  cases item.attribute? field <;> rfl

theorem repeat?_eq_none_iff {seen rest : List (Value × Item)} :
    repeat? seen rest = none ↔
      (∀ e ∈ seen, ∀ c ∈ rest, e.1.sameAs c.1 = false) ∧
        rest.Pairwise fun b c => b.1.sameAs c.1 = false := by
  induction rest generalizing seen with
  | nil => simp [repeat?]
  | cons c rest ih =>
    obtain ⟨v, item⟩ := c
    rw [repeat?]
    cases hfind : seen.find? fun earlier => earlier.1.sameAs v with
    | some first =>
      have hmem := List.mem_of_find?_eq_some hfind
      have hsame : first.1.sameAs v = true := by
        simpa using List.find?_some hfind
      simp only [reduceCtorEq, false_iff, not_and]
      intro hnone
      have hdiffers := hnone first hmem (v, item) List.mem_cons_self
      rw [hsame] at hdiffers
      cases hdiffers
    | none =>
      have hnone : ∀ e ∈ seen, e.1.sameAs v = false := by simpa using hfind
      simp only [ih, List.pairwise_cons, List.mem_append, List.mem_singleton, List.forall_mem_cons,
        or_imp, forall_and, forall_eq]
      constructor
      · rintro ⟨⟨hseen, hc⟩, hrest⟩
        exact ⟨⟨hnone, hseen⟩, hc, hrest⟩
      · rintro ⟨⟨-, hseen⟩, hc, hrest⟩
        exact ⟨⟨hseen, hc⟩, hrest⟩

theorem isNone_repeat?_perm {cs cs' : List (Value × Item)} (h : cs.Perm cs') :
    (repeat? [] cs).isNone = (repeat? [] cs').isNone := by
  rw [Bool.eq_iff_iff, Option.isNone_iff_eq_none, Option.isNone_iff_eq_none, repeat?_eq_none_iff,
    repeat?_eq_none_iff]
  have hswap : ∀ {b c : Value × Item}, b.1.sameAs c.1 = false → c.1.sameAs b.1 = false := by
    intro b c hbc
    rwa [Value.sameAs_comm]
  rw [h.pairwise_iff hswap]
  simp

/-- The numbers of the items are read, or one of them is not a number. -/
theorem numbers_eq (field : String) (items : List Item) :
    (numbers field items).toOption =
      if ∀ v ∈ carried field items, v.number?.isSome then
        some ((carried field items).filterMap Value.number?)
      else none := by
  induction items with
  | nil => rfl
  | cons a items ih =>
    rw [numbers, toOption_bind, Operator.number?]
    cases hv : a.attribute? field with
    | none =>
      rw [carried_cons_none hv]
      exact ih
    | some v =>
      rw [carried_cons_some hv]
      dsimp only
      cases hx : v.number? with
      | none => simp [hx, Except.toOption]
      | some x =>
        show (numbers field items >>= fun rest => pure (x :: rest)).toOption = _
        rw [toOption_bind, ih]
        split <;> simp_all [pure_eq_ok, Except.toOption]

theorem verdict_requireMembers_bind (op : SetOperator) (items : List Item)
    (f : Unit → Except Error Outcome) :
    verdict (op.requireMembers items >>= f) = if items.isEmpty then none else verdict (f ()) := by
  unfold requireMembers
  split <;> rfl

theorem verdict_uniqueValues (field : String) (items : List Item) :
    verdict ((uniqueValues field).evaluate items) =
      if items.isEmpty then none else some (repeat? [] (carriers field items)).isNone := by
  unfold evaluate
  dsimp only
  rw [verdict_requireMembers_bind]
  cases repeat? [] (carriers field items) <;> rfl

theorem verdict_hasItemWith (field : String) (value : Value) (items : List Item) :
    verdict ((hasItemWith field value).evaluate items) =
      if items.isEmpty then none
      else some (items.any fun item => Operator.carries item field value) := by
  unfold evaluate
  dsimp only
  rw [verdict_requireMembers_bind, ← List.isSome_find?]
  cases items.find? fun item => Operator.carries item field value <;> rfl

theorem verdict_countByField (field : String) (comparison : Comparison) (value : Float)
    (items : List Item) :
    verdict ((countByField field comparison value).evaluate items) =
      if items.isEmpty then none
      else some (comparison.holds (Float.ofNat (distinctValues field items).length) value) := by
  unfold evaluate
  dsimp only
  rw [verdict_requireMembers_bind]
  rfl

/-- Whether the extremes of some numbers are near enough; none where there are no numbers. -/
def inRange? (maxRange : Float) : List Float → Option Bool
  | [] => none
  | x :: rest => some (rest.foldl greaterFloat x - rest.foldl lesserFloat x ≤ maxRange)

theorem verdict_formalityRange (field : String) (maxRange : Float) (items : List Item) :
    verdict ((formalityRange field maxRange).evaluate items) =
      if items.isEmpty then none else (numbers field items).toOption.bind (inRange? maxRange) := by
  unfold evaluate
  dsimp only
  rw [verdict_requireMembers_bind]
  rcases numbers field items with e | ⟨_ | ⟨x, rest⟩⟩ <;> rfl

theorem inRange?_perm (maxRange : Float) {xs ys : List Float} (h : xs.Perm ys) :
    inRange? maxRange xs = inRange? maxRange ys := by
  cases xs with
  | nil => rw [h.nil_eq]
  | cons x xs =>
    cases ys with
    | nil => cases h.eq_nil
    | cons y ys =>
      have hrange := (alike_foldl_greaterFloat h).sub (alike_foldl_lesserFloat h)
      exact congrArg some (decide_eq_decide.2 (hrange.le_iff maxRange))

theorem carried_perm (h : items.Perm items') :
    (carried field items).Perm (carried field items') := h.filterMap _

theorem numbers_perm (h : items.Perm items') (maxRange : Float) :
    (numbers field items).toOption.bind (inRange? maxRange)
      = (numbers field items').toOption.bind (inRange? maxRange) := by
  have hperm : (carried field items).Perm (carried field items') := carried_perm h
  rw [numbers_eq, numbers_eq]
  simp only [hperm.mem_iff]
  split
  · exact inRange?_perm maxRange (hperm.filterMap _)
  · rfl

/-- An operator has the same verdict on items in any order, if sameness is transitive on the values
that it counts. -/
theorem verdict_perm (h : items.Perm items')
    (hcount : ∀ field comparison value, op = .countByField field comparison value →
      Value.Classified (carried field items)) :
    verdict (op.evaluate items) = verdict (op.evaluate items') := by
  cases op with
  | minClusterSize value =>
    show some _ = some _
    rw [h.length_eq]
  | maxClusterSize value =>
    show some _ = some _
    rw [h.length_eq]
  | uniqueValues field =>
    have hcarriers : (carriers field items).Perm (carriers field items') := h.filterMap _
    rw [verdict_uniqueValues, verdict_uniqueValues, h.isEmpty_eq, isNone_repeat?_perm hcarriers]
  | hasItemWith field value =>
    rw [verdict_hasItemWith, verdict_hasItemWith, h.isEmpty_eq, h.any_eq]
  | countByField field comparison value =>
    have hlength := (hcount field comparison value rfl).length_eraseDupsBy (carried_perm h)
    rw [verdict_countByField, verdict_countByField, h.isEmpty_eq, distinctValues, distinctValues,
      map_carriers, map_carriers, hlength]
  | formalityRange field maxRange =>
    rw [verdict_formalityRange, verdict_formalityRange, h.isEmpty_eq, numbers_perm h]

/-! ## Schemas -/

theorem type_ne_float_of_check {d : Dimension} {v : Value} (hkind : d.kind.tag ≠ .float)
    (h : d.check v = .ok ()) : v.type ≠ .float := by
  cases v with
  | float x =>
    unfold Dimension.check at h
    cases hd : d.kind with
    | float min max => exact absurd (congrArg DimensionKind.tag hd) hkind
    | _ =>
      rw [hd] at h
      cases h
  | _ => simp [Value.type]

theorem check_of_mem_carried {d : Dimension} (hd : schema.dimension? field = some d)
    (hitems : ∀ a ∈ items, schema.validate a = .ok ()) {v : Value} (hv : v ∈ carried field items) :
    d.check v = .ok () := by
  obtain ⟨a, ha, hv⟩ := List.mem_filterMap.1 hv
  exact Schema.check_of_validate (hitems a ha) hd hv

/-- Sameness is transitive on the values of a dimension that accepts no floats. -/
theorem classified_of_kind {d : Dimension} (hd : schema.dimension? field = some d)
    (hkind : d.kind.tag ≠ .float) (hitems : ∀ a ∈ items, schema.validate a = .ok ()) :
    Value.Classified (carried field items) := by
  refine Value.classified_of_no_float fun v hv => ?_
  exact type_ne_float_of_check hkind (check_of_mem_carried hd hitems hv)

theorem exists_dimension {comparison : Comparison} {value : Float}
    (h : (countByField field comparison value).checkSchema schema = .ok ()) :
    ∃ d, schema.dimension? field = some d := by
  obtain ⟨d, hd, -⟩ := bind_eq_ok_iff.1 h
  exact ⟨d, Operator.dimension_eq_ok_iff.1 hd⟩

/-- An operator that can read a schema has the same verdict on items of the schema in any order,
unless it counts the values of a float dimension among which sameness is not transitive. -/
theorem evaluate_order_free (hread : op.checkSchema schema = .ok ())
    (hitems : ∀ a ∈ items, schema.validate a = .ok ()) (hperm : items.Perm items')
    (hfloat : ∀ field comparison value d, op = .countByField field comparison value →
      schema.dimension? field = some d → d.kind.tag = .float →
        Value.Classified (carried field items)) :
    verdict (op.evaluate items) = verdict (op.evaluate items') := by
  refine verdict_perm hperm ?_
  rintro field comparison value rfl
  obtain ⟨d, hd⟩ := exists_dimension hread
  by_cases hkind : d.kind.tag = .float
  · exact hfloat field comparison value d rfl hd hkind
  · exact classified_of_kind hd hkind hitems

/-- A weight on a scale. -/
def weight (id : String) (value : Value) : Item where
  id := ⟨id⟩
  name := id
  attributes := .ofList [("grams", value)]

/-- The schema of weights. -/
def weights : Schema := ⟨"weights", "1", [⟨"grams", .float none none, true⟩], .reject, by decide⟩

/-- There are two distinct weights. -/
def twoWeights : SetOperator := .countByField "grams" .eq 2

theorem evaluate_order_free_weights :
    let items := [weight "a" (.int 2), weight "b" (.float 3.5), weight "c" (.float 2)]
    twoWeights.checkSchema weights = .ok () ∧ (∀ a ∈ items, weights.validate a = .ok ()) ∧
      verdict (twoWeights.evaluate items) = verdict (twoWeights.evaluate items.reverse) := by
  intro items
  have hread : twoWeights.checkSchema weights = .ok () := by decide +kernel
  have hitems : ∀ a ∈ items, weights.validate a = .ok () := by decide +kernel
  have hsame : ∀ u ∈ carried "grams" items, ∀ v ∈ carried "grams" items,
      ∀ w ∈ carried "grams" items, u.sameAs v = true → v.sameAs w = true → u.sameAs w = true := by
    decide +kernel
  refine ⟨hread, hitems, evaluate_order_free hread hitems (List.reverse_perm _).symm ?_⟩
  rintro field comparison value d heq - -
  cases heq
  exact hsame

/-- Two integers are told apart, unless they are compared with the float that both are rounded to:
so the number of distinct values depends on which of the three comes first. -/
theorem count_depends_on_order :
    let a := weight "a" (.int 9007199254740992)
    let b := weight "b" (.int 9007199254740993)
    let c := weight "c" (.float 9007199254740992)
    twoWeights.checkSchema weights = .ok () ∧
      (∀ item ∈ [a, b, c], weights.validate item = .ok ()) ∧ [a, b, c].Perm [c, a, b] ∧
      verdict (twoWeights.evaluate [a, b, c]) = some true ∧
      verdict (twoWeights.evaluate [c, a, b]) = some false := by
  decide +kernel

end SetOperator

end Ensemble
