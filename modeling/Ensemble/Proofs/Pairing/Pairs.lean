import Ensemble.Pairing.Pairs
import Mathlib.Data.List.Nodup
import Mathlib.Data.Nat.Choose.Basic
import Mathlib.Data.Prod.Basic

/-!
# The pairs of a list

Which pairs `pairsOf` lists, in terms of positions, how many there are, in which order they come, and
what it means that all of them are related.
-/

namespace Ensemble

variable {α : Type} {xs : List α} {a b : α}

theorem mem_pairsOf_iff_sublist : (a, b) ∈ pairsOf xs ↔ [a, b].Sublist xs := by
  induction xs with
  | nil => simp
  | cons x xs ih =>
    rw [pairsOf_cons, List.mem_append, ih, List.sublist_cons_iff]
    simp only [List.mem_map, Prod.mk.injEq, List.cons.injEq]
    constructor
    · rintro (⟨b', hb, rfl, rfl⟩ | h)
      · exact .inr ⟨[b'], ⟨rfl, rfl⟩, List.singleton_sublist.2 hb⟩
      · exact .inl h
    · rintro (h | ⟨_, ⟨rfl, rfl⟩, h⟩)
      · exact .inr h
      · exact .inl ⟨b, List.singleton_sublist.1 h, rfl, rfl⟩

/-- The pairs are those of elements at different positions, the earlier one first. -/
theorem mem_pairsOf_iff_getElem? :
    (a, b) ∈ pairsOf xs ↔ ∃ i j : Nat, i < j ∧ xs[i]? = some a ∧ xs[j]? = some b := by
  induction xs with
  | nil => simp
  | cons x xs ih =>
    rw [pairsOf_cons, List.mem_append, ih, List.mem_map]
    constructor
    · rintro (⟨c, hc, heq⟩ | ⟨i, j, hij, ha, hb⟩)
      · obtain ⟨rfl, rfl⟩ := Prod.mk.inj heq
        obtain ⟨j, hj⟩ := List.mem_iff_getElem?.1 hc
        exact ⟨0, j + 1, by omega, rfl, hj⟩
      · exact ⟨i + 1, j + 1, by omega, ha, hb⟩
    · rintro ⟨i, j, hij, ha, hb⟩
      obtain ⟨j, rfl⟩ : ∃ k, j = k + 1 := ⟨j - 1, by omega⟩
      rw [List.getElem?_cons_succ] at hb
      cases i with
      | zero =>
        obtain rfl := Option.some.inj ha
        exact .inl ⟨b, List.mem_of_getElem? hb, rfl⟩
      | succ i => exact .inr ⟨i, j, by omega, ha, hb⟩

theorem mem_pairsOf_zipIdx {i j : Nat} :
    ((a, i), (b, j)) ∈ pairsOf xs.zipIdx ↔ i < j ∧ xs[i]? = some a ∧ xs[j]? = some b := by
  rw [mem_pairsOf_iff_getElem?]
  simp only [List.getElem?_zipIdx, Option.map_eq_some_iff, Prod.mk.injEq, Nat.zero_add]
  constructor
  · rintro ⟨_, _, hlt, ⟨_, ha, rfl, rfl⟩, ⟨_, hb, rfl, rfl⟩⟩
    exact ⟨hlt, ha, hb⟩
  · rintro ⟨hlt, ha, hb⟩
    exact ⟨i, j, hlt, ⟨a, ha, rfl, rfl⟩, ⟨b, hb, rfl, rfl⟩⟩

theorem forall_pairsOf_iff {R : α → α → Prop} :
    (∀ p ∈ pairsOf xs, R p.1 p.2) ↔ xs.Pairwise R := by
  rw [List.pairwise_iff_forall_sublist]
  constructor
  · intro h a b hab
    exact h (a, b) (mem_pairsOf_iff_sublist.2 hab)
  · intro h p hp
    exact h (mem_pairsOf_iff_sublist.1 hp)

/-! ## Lists without repetitions -/

section

variable (hxs : xs.Nodup)

include hxs

theorem nodup_pairsOf : (pairsOf xs).Nodup := by
  induction hxs with
  | nil => exact List.nodup_nil
  | @cons x xs hx hxs ih =>
    rw [pairsOf_cons, List.nodup_append]
    refine ⟨List.Nodup.map (Prod.mk_right_injective x) hxs, ih, ?_⟩
    rintro p hp ⟨a, b⟩ hab rfl
    obtain ⟨y, -, heq⟩ := List.mem_map.1 hp
    obtain ⟨rfl, -⟩ := Prod.mk.inj heq
    have ha : x ∈ xs := (mem_pairsOf_iff_sublist.1 hab).subset List.mem_cons_self
    exact hx x ha rfl

/-- No pair is listed in both orders. -/
theorem swap_notMem_pairsOf (h : (a, b) ∈ pairsOf xs) : (b, a) ∉ pairsOf xs := by
  intro hswap
  obtain ⟨i, j, hij, hi, hj⟩ := mem_pairsOf_iff_getElem?.1 h
  obtain ⟨k, l, hkl, hk, hl⟩ := mem_pairsOf_iff_getElem?.1 hswap
  have hilt : i < xs.length := (List.getElem?_eq_some_iff.1 hi).1
  have hjlt : j < xs.length := (List.getElem?_eq_some_iff.1 hj).1
  have hil : i = l := (List.getElem?_inj hilt hxs).1 (hi.trans hl.symm)
  have hjk : j = k := (List.getElem?_inj hjlt hxs).1 (hj.trans hk.symm)
  omega

/-- Any two different elements are listed as a pair, in one of both orders. -/
theorem mem_pairsOf_or_swap :
    ((a, b) ∈ pairsOf xs ∨ (b, a) ∈ pairsOf xs) ↔ a ∈ xs ∧ b ∈ xs ∧ a ≠ b := by
  constructor
  · rintro (h | h)
    all_goals
      have hsub := mem_pairsOf_iff_sublist.1 h
      have hne := hxs.sublist hsub
      simp only [List.nodup_cons, List.mem_singleton] at hne
    · exact ⟨hsub.subset (by simp), hsub.subset (by simp), hne.1⟩
    · exact ⟨hsub.subset (by simp), hsub.subset (by simp), Ne.symm hne.1⟩
  · rintro ⟨ha, hb, hne⟩
    obtain ⟨i, hi⟩ := List.mem_iff_getElem?.1 ha
    obtain ⟨j, hj⟩ := List.mem_iff_getElem?.1 hb
    rcases Nat.lt_trichotomy i j with hij | rfl | hji
    · exact .inl (mem_pairsOf_iff_getElem?.2 ⟨i, j, hij, hi, hj⟩)
    · exact absurd (Option.some.inj (hi.symm.trans hj)) hne
    · exact .inr (mem_pairsOf_iff_getElem?.2 ⟨j, i, hji, hj, hi⟩)

end

/-! ## Positions -/

theorem pairsOf_map {β : Type} (f : α → β) (xs : List α) :
    pairsOf (xs.map f) = (pairsOf xs).map fun p => (f p.1, f p.2) := by
  induction xs with
  | nil => rfl
  | cons x xs ih =>
    rw [List.map_cons, pairsOf_cons, pairsOf_cons, List.map_append, List.map_map, List.map_map, ih]
    rfl

theorem length_pairsOf (xs : List α) : (pairsOf xs).length = xs.length * (xs.length - 1) / 2 := by
  induction xs with
  | nil => simp
  | cons x xs ih =>
    rw [pairsOf_cons, List.length_append, List.length_map, ih, List.length_cons, Nat.triangle_succ,
      Nat.add_comm]

/-- The pairs of an ascending list come in lexicographic order. -/
theorem pairwise_lex_pairsOf {is : List Nat} (h : is.Pairwise (· < ·)) :
    (pairsOf is).Pairwise (Prod.Lex (· < ·) (· < ·)) := by
  induction is with
  | nil => exact .nil
  | cons i is ih =>
    obtain ⟨hi, his⟩ := List.pairwise_cons.1 h
    rw [pairsOf_cons, List.pairwise_append]
    refine ⟨?_, ih his, ?_⟩
    · rw [List.pairwise_map]
      exact his.imp fun hlt => Prod.Lex.right i hlt
    · intro p hp q hq
      obtain ⟨j, -, rfl⟩ := List.mem_map.1 hp
      obtain ⟨k, l, -, hk, -⟩ := mem_pairsOf_iff_getElem?.1 hq
      exact Prod.Lex.left _ _ (hi q.1 (List.mem_of_getElem? hk))

/-- The pairs of positions in a list of a given length, in lexicographic order. -/
def positionPairs (n : Nat) : List (Nat × Nat) := pairsOf (List.range n)

theorem mem_positionPairs {n i j : Nat} : (i, j) ∈ positionPairs n ↔ i < j ∧ j < n := by
  unfold positionPairs
  rw [mem_pairsOf_iff_getElem?]
  simp only [List.getElem?_eq_some_iff, List.length_range, List.getElem_range]
  constructor
  · rintro ⟨k, l, hlt, ⟨-, rfl⟩, hl, rfl⟩
    exact ⟨hlt, hl⟩
  · rintro ⟨hlt, hj⟩
    exact ⟨i, j, hlt, ⟨by omega, rfl⟩, hj, rfl⟩

theorem pairwise_positionPairs (n : Nat) :
    (positionPairs n).Pairwise (Prod.Lex (· < ·) (· < ·)) :=
  pairwise_lex_pairsOf List.pairwise_lt_range

theorem nodup_positionPairs (n : Nat) : (positionPairs n).Nodup :=
  (pairwise_positionPairs n).nodup

theorem positions_pairsOf_zipIdx (xs : List α) :
    (pairsOf xs.zipIdx).map (fun p => (p.1.2, p.2.2)) = positionPairs xs.length := by
  rw [← pairsOf_map Prod.snd, List.zipIdx_map_snd, ← List.range_eq_range']
  rfl

theorem elements_pairsOf_zipIdx (xs : List α) :
    (pairsOf xs.zipIdx).map (fun p => (p.1.1, p.2.1)) = pairsOf xs := by
  rw [← pairsOf_map Prod.fst, List.zipIdx_map_fst]

end Ensemble
