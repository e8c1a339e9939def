import Ensemble.Proofs.Condition.Reordering
import Ensemble.Proofs.Value.Heights
import Ensemble.Proofs.Value.Rounding

/-!
# Uniqueness over a set and over its pairs

The scan for a first repetition, the number of distinct values and the comparison of two items
decide one question.  None of this needs sameness to be transitive: the first value of a class that
is met stays, and what is dropped is the same as a value that stayed.
-/

namespace Ensemble

/-! ## Keeping one of each -/

section

variable {α : Type} {r : α → α → Bool}

theorem eraseDupsBy_eq_nil_iff {xs : List α} : xs.eraseDupsBy r = [] ↔ xs = [] := by
  cases xs with
  | nil => exact iff_of_true rfl rfl
  | cons a as => rw [List.eraseDupsBy_cons]; exact iff_of_false nofun nofun

theorem length_eraseDupsBy_le (xs : List α) : (xs.eraseDupsBy r).length ≤ xs.length := by
  induction hlen : xs.length using Nat.strongRecOn generalizing xs with
  | ind n ih =>
    cases xs with
    | nil => exact Nat.zero_le _
    | cons a as =>
      have hle := List.length_filter_le (fun b => decide (r b a = false)) as
      rw [List.length_cons] at hlen
      rw [List.eraseDupsBy_cons, List.length_cons]
      have hrest := ih _ (by omega) (as.filter fun b => decide (r b a = false)) rfl
      omega

/-- Nothing is dropped if and only if no element is the same as an earlier one. -/
theorem length_eraseDupsBy_eq_iff {xs : List α} :
    (xs.eraseDupsBy r).length = xs.length ↔ xs.Pairwise fun a b => r b a = false := by
  induction xs with
  | nil => exact iff_of_true rfl .nil
  | cons a as ih =>
    rw [List.eraseDupsBy_cons, List.length_cons, List.length_cons, Nat.add_right_cancel_iff,
      List.pairwise_cons]
    constructor
    · intro hlength
      have hle := List.length_filter_le (fun b => decide (r b a = false)) as
      have hrest := length_eraseDupsBy_le (r := r) (as.filter fun b => decide (r b a = false))
      have hkept := List.length_filter_eq_length_iff.1 (Nat.le_antisymm hle (by omega))
      rw [List.filter_eq_self.2 hkept] at hlength
      exact ⟨fun b hb => of_decide_eq_true (hkept b hb), ih.1 hlength⟩
    · rintro ⟨hhead, htail⟩
      rw [List.filter_eq_self.2 fun b hb => decide_eq_true (hhead b hb)]
      exact ih.2 htail

end

/-- Floats of whole numbers up to 53 bits are equal for equal numbers only. -/
theorem float_ofNat_beq_iff {n m : Nat} (hn : n < 2 ^ 53) (hm : m < 2 ^ 53) :
    (Float.ofNat n == Float.ofNat m) = true ↔ n = m := by
  have hrounds := rounds_float_ofNat (n := n) (by omega)
  have hrounds' := rounds_float_ofNat (n := m) (by omega)
  constructor
  · intro h
    obtain hsame | ⟨s, t, hs, ht⟩ := unpacked_eq_or_zero (float_beq_iff.1 h)
    · rw [← hsame] at hrounds'
      exact Int.ofNat.inj (hrounds.unique hrounds' hn)
    · rw [hs] at hrounds
      rw [ht] at hrounds'
      exact Int.ofNat.inj (hrounds.eq_zero.trans hrounds'.eq_zero.symm)
  · rintro rfl
    exact float_beq_self (isNaN_of_isFinite hrounds.isFinite)

namespace SetOperator

variable {items : List Item} {field : String} {r : Item → Item → Prop}

/-! ## Members that carry an attribute -/

/-- How many members carry an attribute. -/
def carrierCount (field : String) (items : List Item) : Nat :=
  items.countP fun a => (a.attribute? field).isSome

/-- Every two members at different positions that carry an attribute are related. -/
def EveryTwo (field : String) (items : List Item) (r : Item → Item → Prop) : Prop :=
  ∀ (i j : Nat) (a b : Item), i ≠ j → items[i]? = some a → items[j]? = some b →
    (a.attribute? field).isSome → (b.attribute? field).isSome → r a b

theorem length_carried (field : String) (items : List Item) :
    (carried field items).length = carrierCount field items := List.length_filterMap_eq_countP

/-- A symmetric relation of the values holds of every two carriers if it holds of each carried value
and the later ones. -/
theorem everyTwo_iff {s : Value → Value → Prop} (hs : ∀ v w, s v w → s w v)
    (hr : ∀ a b v w, a.attribute? field = some v → b.attribute? field = some w →
      (r a b ↔ s v w)) :
    EveryTwo field items r ↔ (carried field items).Pairwise s := by
  unfold carried
  rw [List.pairwise_filterMap, List.pairwise_iff_getElem]
  constructor
  · intro h i j hi hj hlt v hv w hw
    refine (hr _ _ v w hv hw).1 (h i j _ _ (Nat.ne_of_lt hlt) (List.getElem?_eq_getElem hi)
      (List.getElem?_eq_getElem hj) ?_ ?_)
    · rw [hv]; rfl
    · rw [hw]; rfl
  · intro h i j a b hne ha hb hasome hbsome
    obtain ⟨v, hv⟩ := Option.isSome_iff_exists.1 hasome
    obtain ⟨w, hw⟩ := Option.isSome_iff_exists.1 hbsome
    obtain ⟨hi, rfl⟩ := List.getElem?_eq_some_iff.1 ha
    obtain ⟨hj, rfl⟩ := List.getElem?_eq_some_iff.1 hb
    refine (hr _ _ v w hv hw).2 ?_
    rcases Nat.lt_or_gt_of_ne hne with hlt | hlt
    · exact h i j hi hj hlt v hv w hw
    · exact hs w v (h j i hj hi hlt w hw v hv)

theorem verdict_hasDifferent {a b : Item} {v w : Value} (ha : a.attribute? field = some v)
    (hb : b.attribute? field = some w) :
    verdict ((PairOperator.hasDifferent field).evaluate ⟨a, b⟩) = some (!v.sameAs w) := by
  show some (PairOperator.compareValues field false ⟨a, b⟩).passed = _
  unfold PairOperator.compareValues
  simp only [ha, hb]
  cases v.sameAs w <;> rfl

theorem everyTwo_hasDifferent_iff :
    EveryTwo field items
        (fun a b => verdict ((PairOperator.hasDifferent field).evaluate ⟨a, b⟩) = some true) ↔
      (carried field items).Pairwise fun v w => w.sameAs v = false := by
  refine everyTwo_iff (fun v w h => ?_) fun a b v w ha hb => ?_
  · rwa [Value.sameAs_comm]
  · rw [verdict_hasDifferent ha hb, Option.some.injEq, Bool.not_eq_true', Value.sameAs_comm]

/-! ## Distinct values -/

theorem isNone_repeat?_iff :
    (repeat? [] (carriers field items)).isNone = true ↔
      (carried field items).Pairwise fun v w => w.sameAs v = false := by
  rw [Option.isNone_iff_eq_none, repeat?_eq_none_iff, ← map_carriers, List.pairwise_map]
  simp only [Value.sameAs_comm, List.not_mem_nil, false_imp_iff, implies_true, true_and]

theorem length_distinctValues_le :
    (distinctValues field items).length ≤ carrierCount field items := by
  rw [distinctValues, map_carriers, ← length_carried]
  exact length_eraseDupsBy_le _

theorem length_distinctValues_eq_iff :
    (distinctValues field items).length = carrierCount field items ↔
      (carried field items).Pairwise fun v w => w.sameAs v = false := by
  rw [distinctValues, map_carriers, ← length_carried, length_eraseDupsBy_eq_iff]
  simp only [Value.sameAs_comm]

theorem length_distinctValues_eq_zero_iff :
    (distinctValues field items).length = 0 ↔ carrierCount field items = 0 := by
  rw [distinctValues, map_carriers, ← length_carried, List.length_eq_zero_iff,
    List.length_eq_zero_iff, eraseDupsBy_eq_nil_iff]

/-- What is said of the values of some items as a set, as pairs and by counting them. -/
structure UniqueAsPairs (field : String) (items : List Item) : Prop where
  unique : ∃ b, verdict ((uniqueValues field).evaluate items) = some b ∧
    verdict ((countByField field .eq (Float.ofNat (carrierCount field items))).evaluate items)
      = some b ∧
    (b = true ↔ EveryTwo field items fun x y =>
      verdict ((PairOperator.hasDifferent field).evaluate ⟨x, y⟩) = some true)
  compares : ∀ comparison value,
    verdict ((countByField field comparison value).evaluate items)
      = some (comparison.holds (Float.ofNat (distinctValues field items).length) value)
  count_le : (distinctValues field items).length ≤ carrierCount field items
  count_eq_zero_iff : (distinctValues field items).length = 0 ↔ carrierCount field items = 0
  count_lt : ∀ (i j : Nat) (a b : Item) (v w : Value), i ≠ j → items[i]? = some a →
    items[j]? = some b → a.attribute? field = some v → b.attribute? field = some w →
      v.sameAs w = true → (distinctValues field items).length < carrierCount field items

/-- The values of a set are unique if and only if every two members differ, and if and only if there
are as many distinct values as carriers.  There are never more, and fewer as soon as two carried
values are the same. -/
theorem uniqueness_agrees (hne : items ≠ []) (hsmall : carrierCount field items < 2 ^ 53) :
    UniqueAsPairs field items := by
  have hitems : items.isEmpty = false := by
    rw [List.isEmpty_eq_false_iff]
    exact hne
  have hcompares : ∀ comparison value,
      verdict ((countByField field comparison value).evaluate items)
        = some (comparison.holds (Float.ofNat (distinctValues field items).length) value) := by
    intro comparison value
    rw [verdict_countByField, hitems]
    rfl
  have hle : (distinctValues field items).length ≤ carrierCount field items :=
    length_distinctValues_le
  refine ⟨⟨(repeat? [] (carriers field items)).isNone, ?_, ?_, ?_⟩, hcompares, hle,
    length_distinctValues_eq_zero_iff, ?_⟩
  · rw [verdict_uniqueValues, hitems]
    rfl
  · rw [hcompares, Option.some.injEq, Bool.eq_iff_iff, isNone_repeat?_iff,
      ← length_distinctValues_eq_iff]
    exact float_ofNat_beq_iff (by omega) hsmall
  · rw [isNone_repeat?_iff, everyTwo_hasDifferent_iff]
  · intro i j a b v w hij ha hb hv hw hsame
    refine Nat.lt_of_le_of_ne hle fun heq => ?_
    have hpairs := everyTwo_hasDifferent_iff.2 (length_distinctValues_eq_iff.1 heq)
    have hdiffer := hpairs i j a b hij ha hb (by rw [hv]; rfl) (by rw [hw]; rfl)
    simp only [verdict_hasDifferent hv hw, hsame] at hdiffer
    cases hdiffer

theorem uniqueness_agrees_weights :
    let items := [weight "a" (.int 9007199254740992), weight "b" (.int 9007199254740993),
      weight "c" (.float 9007199254740992), weight "d" .nil]
    UniqueAsPairs "grams" items ∧ carrierCount "grams" items = 3 ∧
      verdict ((uniqueValues "grams").evaluate items) = some false := by
  intro items
  have hcount : carrierCount "grams" items = 3 := by decide +kernel
  have hsmall : carrierCount "grams" items < 2 ^ 53 := by omega
  exact ⟨uniqueness_agrees (List.cons_ne_nil _ _) hsmall, hcount, by decide +kernel⟩

end SetOperator

end Ensemble
