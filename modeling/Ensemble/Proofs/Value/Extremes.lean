import Ensemble.Proofs.Value.Float
import Ensemble.Value.Extremes
import Mathlib.Data.Prod.Lex

/-!
# The extremes of several floats

The floats that are numbers have places in a linear order.  The least or the greatest of several
floats is taken one after the other, and the order in which this is done does not matter, up to the
sign of a zero.  Such a sign is lost again where two extremes are subtracted and compared.
-/

namespace Ensemble

open Float.Model

/-! ## Places -/

/-- The place of a number: first infinities, signs and zero, then exponents, then mantissas. -/
def place : UnpackedFloat → Int ×ₗ Int ×ₗ Int
  | .infinity .negative => toLex (-2, toLex (0, 0))
  | .finite .negative m e _ => toLex (-1, toLex (-e, -m))
  | .zero _ | .notANumber => toLex (0, toLex (0, 0))
  | .finite .positive m e _ => toLex (1, toLex (e, m))
  | .infinity .positive => toLex (2, toLex (0, 0))

theorem unpacked_lt_iff_place {a b : UnpackedFloat} (ha : a.isNaN = false) (hb : b.isNaN = false) :
    a.compare b = some .lt ↔ place a < place b := by
  rcases a with s | _ | s | ⟨s, m, e, hm⟩ <;> rcases b with t | _ | t | ⟨t, n, f, hn⟩
  -- Only finite numbers of one sign are told apart by their exponents and mantissas.
  case finite.finite =>
    cases s <;> cases t
    all_goals dsimp only [UnpackedFloat.compare, place]
    case positive.positive =>
      have hlt : (compare e f).then (compare m n) = .lt ↔ e < f ∨ e = f ∧ m < n := by
        rw [Ordering.then_eq_lt, Int.compare_eq_lt, Int.compare_eq_eq, Nat.compare_eq_lt]
      simp [Prod.Lex.toLex_lt_toLex, hlt]
    case negative.negative =>
      have hgt : (compare e f).then (compare m n) = .gt ↔ f < e ∨ e = f ∧ n < m := by
        rw [Ordering.then_eq_gt, Int.compare_eq_gt, Int.compare_eq_eq, Nat.compare_eq_gt]
      simp [Prod.Lex.toLex_lt_toLex, hgt]
    all_goals simp [Prod.Lex.toLex_lt_toLex]
  all_goals try (cases ha; done)
  all_goals try (cases hb; done)
  all_goals try cases s
  all_goals try cases t
  all_goals
    dsimp only [UnpackedFloat.compare, place]
    simp +decide [Prod.Lex.toLex_lt_toLex]

theorem unpacked_lt_iff {a b : UnpackedFloat} :
    a.compare b = some .lt ↔ a.isNaN = false ∧ b.isNaN = false ∧ place a < place b := by
  constructor
  · intro h
    have ha : a.isNaN = false := by
      cases a <;> first | rfl | cases h
    have hb : b.isNaN = false := by
      cases b <;> first | rfl | (cases a <;> cases h)
    exact ⟨ha, hb, (unpacked_lt_iff_place ha hb).1 h⟩
  · rintro ⟨ha, hb, h⟩
    exact (unpacked_lt_iff_place ha hb).2 h

/-- Numbers at one place are the same, apart from the signs of two zeros. -/
theorem eq_or_zero_of_place {a b : UnpackedFloat} (ha : a.isNaN = false) (hb : b.isNaN = false)
    (h : place a = place b) : a = b ∨ ∃ s t, a = .zero s ∧ b = .zero t := by
  rcases a with s | _ | s | ⟨s, m, e, hm⟩ <;> rcases b with t | _ | t | ⟨t, n, f, hn⟩
  case zero.zero => exact .inr ⟨s, t, rfl, rfl⟩
  case finite.finite =>
    cases s <;> cases t
    all_goals
      dsimp only [place] at h
      simp only [EmbeddingLike.apply_eq_iff_eq, Prod.mk.injEq] at h
    case positive.positive =>
      obtain rfl : e = f := h.2.1
      obtain rfl : m = n := by omega
      exact .inl rfl
    case negative.negative =>
      obtain rfl : e = f := by omega
      obtain rfl : m = n := by omega
      exact .inl rfl
    all_goals omega
  all_goals try (cases ha; done)
  all_goals try (cases hb; done)
  all_goals try cases s
  all_goals try cases t
  all_goals try exact .inl rfl
  all_goals
    dsimp only [place] at h
    simp +decide at h

/-! ## Signs of zeros -/

/-- Two floats are the same, apart from the signs of two zeros. -/
def Alike (x y : Float) : Prop :=
  x.toModel.unpack = y.toModel.unpack ∨
    ∃ s t, x.toModel.unpack = .zero s ∧ y.toModel.unpack = .zero t

theorem sub_eq_or_zero (spec : Format) {a a' b b' : UnpackedFloat}
    (ha : a = a' ∨ ∃ s t, a = .zero s ∧ a' = .zero t)
    (hb : b = b' ∨ ∃ s t, b = .zero s ∧ b' = .zero t) :
    a.sub spec b = a'.sub spec b' ∨
      ∃ s t, a.sub spec b = .zero s ∧ a'.sub spec b' = .zero t := by
  have zeros : ∀ s t, ∃ u, UnpackedFloat.sub spec (.zero s) (.zero t) = .zero u := by
    intro s t
    cases s <;> cases t <;> exact ⟨_, rfl⟩
  obtain rfl | ⟨s, s', rfl, rfl⟩ := ha
  · obtain rfl | ⟨t, t', rfl, rfl⟩ := hb
    · exact .inl rfl
    · rcases a with s | _ | s | ⟨s, m, e, hm⟩
      case zero =>
        obtain ⟨u, hu⟩ := zeros s t
        obtain ⟨u', hu'⟩ := zeros s t'
        exact .inr ⟨u, u', hu, hu'⟩
      all_goals exact .inl rfl
  · obtain rfl | ⟨t, t', rfl, rfl⟩ := hb
    · rcases b with t | _ | t | ⟨t, n, f, hn⟩
      case zero =>
        obtain ⟨u, hu⟩ := zeros s t
        obtain ⟨u', hu'⟩ := zeros s' t
        exact .inr ⟨u, u', hu, hu'⟩
      all_goals exact .inl rfl
    · obtain ⟨u, hu⟩ := zeros s t
      obtain ⟨u', hu'⟩ := zeros s' t'
      exact .inr ⟨u, u', hu, hu'⟩

theorem unpack_pack_zero (s : UnpackedFloat.Sign) :
    UnpackedFloat.unpack .binary64 ((UnpackedFloat.zero s).pack .binary64) = .zero s := by
  cases s <;> rfl

namespace Alike

variable {x x' y y' z : Float}

theorem sub (hx : Alike x x') (hy : Alike y y') : Alike (x - y) (x' - y') := by
  have hpack : ∀ a b : UnpackedFloat, (a = b ∨ ∃ s t, a = .zero s ∧ b = .zero t) →
      Alike ⟨Float.Model.pack a⟩ ⟨Float.Model.pack b⟩ := by
    rintro a b (rfl | ⟨s, t, rfl, rfl⟩)
    · exact .inl rfl
    · exact .inr ⟨s, t, unpack_pack_zero s, unpack_pack_zero t⟩
  exact hpack _ _ (sub_eq_or_zero .binary64 hx hy)

theorem compare_eq (h : Alike x x') (z : Float) :
    x.toModel.unpack.compare z.toModel.unpack = x'.toModel.unpack.compare z.toModel.unpack := by
  obtain h | ⟨s, t, hs, ht⟩ := h
  · rw [h]
  · have heq : x.toModel.unpack.compare x'.toModel.unpack = some .eq := by
      rw [hs, ht]
      rfl
    rw [unpacked_compare_swap z.toModel.unpack, unpacked_compare_swap z.toModel.unpack,
      unpacked_compare_congr heq]

theorem le_iff (h : Alike x x') (z : Float) : x ≤ z ↔ x' ≤ z := by
  have hle : ∀ w : Float, w ≤ z ↔
      (w.toModel.unpack.compare z.toModel.unpack).any Ordering.isLE = true := by
    intro w
    show decide (w.toModel ≤ z.toModel) = true ↔ _
    rw [decide_eq_true_iff]
    rfl
  rw [hle, hle, h.compare_eq]

end Alike

/-! ## Extremes -/

section

variable {κ : Type} [LinearOrder κ] {key : Float → κ} {pick : Float → Float → Float}
  {x y m n : Float} {xs ys : List Float}

/-- A float of a list with the least key among the numbers of the list; it is a number unless none
of the list is. -/
def IsExtreme (key : Float → κ) (xs : List Float) (m : Float) : Prop :=
  m ∈ xs ∧ ∀ z ∈ xs, z.isNaN = false → m.isNaN = false ∧ key m ≤ key z

theorem isExtreme_left (h : y.isNaN = false → x.isNaN = false ∧ key x ≤ key y) :
    IsExtreme key [x, y] x := by
  refine ⟨List.mem_cons_self, fun z hz hnum => ?_⟩
  obtain rfl | hz := List.mem_cons.1 hz
  · exact ⟨hnum, le_rfl⟩
  · obtain rfl := List.mem_singleton.1 hz
    exact h hnum

theorem isExtreme_right (hy : y.isNaN = false) (h : x.isNaN = false → key y ≤ key x) :
    IsExtreme key [x, y] y := by
  refine ⟨List.mem_cons_of_mem x List.mem_cons_self, fun z hz hnum => ?_⟩
  obtain rfl | hz := List.mem_cons.1 hz
  · exact ⟨hy, h hnum⟩
  · obtain rfl := List.mem_singleton.1 hz
    exact ⟨hy, le_rfl⟩

/-- Taking one float after the other leads to an extreme one of all. -/
theorem isExtreme_foldl (hpick : ∀ x y, IsExtreme key [x, y] (pick x y)) :
    IsExtreme key (x :: xs) (xs.foldl pick x) := by
  induction xs generalizing x with
  | nil => exact ⟨List.mem_cons_self, by simp⟩
  | cons y xs ih =>
    obtain ⟨hmem, hleast⟩ := ih (x := pick x y)
    obtain ⟨hpair, hless⟩ := hpick x y
    refine ⟨?_, fun z hz hnum => ?_⟩
    · rcases List.mem_cons.1 hmem with hhead | hrest
      · rw [List.foldl_cons, hhead]
        exact List.mem_append_left xs hpair
      · exact List.mem_cons_of_mem x (List.mem_cons_of_mem y hrest)
    · rcases List.mem_append.1 (show z ∈ [x, y] ++ xs from hz) with hz | hz
      · obtain ⟨hnum', hle⟩ := hless z hz hnum
        obtain ⟨hnum'', hle'⟩ := hleast _ List.mem_cons_self hnum'
        exact ⟨hnum'', hle'.trans hle⟩
      · exact hleast z (List.mem_cons_of_mem _ hz) hnum

/-- Two extremes of lists with the same members agree. -/
theorem IsExtreme.agree (hm : IsExtreme key xs m) (hn : IsExtreme key ys n)
    (h : ∀ z, z ∈ xs ↔ z ∈ ys) :
    m.isNaN = n.isNaN ∧ (m.isNaN = false → key m = key n) := by
  cases hnan : m.isNaN with
  | true =>
    refine ⟨?_, by simp⟩
    by_contra hne
    have hnum : n.isNaN = false := by simpa using Ne.symm hne
    have hcontra := (hm.2 n ((h n).2 hn.1) hnum).1
    rw [hnan] at hcontra
    cases hcontra
  | false =>
    obtain ⟨hnum, hle⟩ := hn.2 m ((h m).1 hm.1) hnan
    obtain ⟨-, hge⟩ := hm.2 n ((h n).2 hn.1) hnum
    exact ⟨hnum.symm, fun _ => le_antisymm hge hle⟩

end

/-- The place of a float among the numbers. -/
def rank (x : Float) : Int ×ₗ Int ×ₗ Int := place x.toModel.unpack

theorem float_lt_iff_rank {x y : Float} :
    x < y ↔ x.isNaN = false ∧ y.isNaN = false ∧ rank x < rank y :=
  float_lt_iff.trans unpacked_lt_iff

theorem alike_of_rank {x y : Float} (hnan : x.isNaN = y.isNaN)
    (hrank : x.isNaN = false → rank x = rank y) : Alike x y := by
  cases hx : x.isNaN with
  | false => exact eq_or_zero_of_place hx (hnan.symm.trans hx) (hrank hx)
  | true =>
    have hunpack : ∀ z : Float, z.isNaN = true → z.toModel.unpack = .notANumber := by
      intro z hz
      have hz : z.toModel.unpack.isNaN = true := hz
      cases hu : z.toModel.unpack with
      | notANumber => rfl
      | _ =>
        rw [hu] at hz
        cases hz
    exact .inl ((hunpack x hx).trans (hunpack y (hnan.symm.trans hx)).symm)

theorem isExtreme_lesserFloat (x y : Float) : IsExtreme rank [x, y] (lesserFloat x y) := by
  have hlt := float_lt_iff_rank (x := x) (y := y)
  unfold lesserFloat
  cases hy : y.isNaN with
  | true => exact isExtreme_left fun hnum => absurd (hy.symm.trans hnum) Bool.noConfusion
  | false =>
    by_cases h : x < y
    · obtain ⟨hx, -, hrank⟩ := hlt.1 h
      rw [if_pos (by simp [h])]
      exact isExtreme_left fun _ => ⟨hx, hrank.le⟩
    · rw [if_neg (by simp [h])]
      exact isExtreme_right hy fun hx => not_lt.1 fun hrank => h (hlt.2 ⟨hx, hy, hrank⟩)

theorem isExtreme_greaterFloat (x y : Float) :
    IsExtreme (OrderDual.toDual ∘ rank) [x, y] (greaterFloat x y) := by
  have hlt := float_lt_iff_rank (x := y) (y := x)
  unfold greaterFloat
  cases hy : y.isNaN with
  | true => exact isExtreme_left fun hnum => absurd (hy.symm.trans hnum) Bool.noConfusion
  | false =>
    by_cases h : y < x
    · obtain ⟨-, hx, hrank⟩ := hlt.1 h
      rw [if_pos (by simp [h])]
      exact isExtreme_left fun _ => ⟨hx, hrank.le⟩
    · rw [if_neg (by simp [h])]
      exact isExtreme_right hy fun hx => not_lt.1 fun hrank => h (hlt.2 ⟨hy, hx, hrank⟩)

/-- The least of several floats does not depend on their order, apart from the sign of a zero. -/
theorem alike_foldl_lesserFloat {x y : Float} {xs ys : List Float} (h : (x :: xs).Perm (y :: ys)) :
    Alike (xs.foldl lesserFloat x) (ys.foldl lesserFloat y) := by
  obtain ⟨hnan, hrank⟩ := (isExtreme_foldl isExtreme_lesserFloat).agree
    (isExtreme_foldl isExtreme_lesserFloat) fun z => h.mem_iff
  exact alike_of_rank hnan hrank

/-- The greatest of several floats does not depend on their order, apart from the sign of a zero. -/
theorem alike_foldl_greaterFloat {x y : Float} {xs ys : List Float}
    (h : (x :: xs).Perm (y :: ys)) :
    Alike (xs.foldl greaterFloat x) (ys.foldl greaterFloat y) := by
  obtain ⟨hnan, hrank⟩ := (isExtreme_foldl isExtreme_greaterFloat).agree
    (isExtreme_foldl isExtreme_greaterFloat) fun z => h.mem_iff
  exact alike_of_rank hnan fun hnum => OrderDual.toDual.injective (hrank hnum)

end Ensemble
