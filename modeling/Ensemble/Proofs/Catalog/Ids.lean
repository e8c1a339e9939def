import Ensemble.Catalog.Basic
import Mathlib.Data.List.Sort

/-!
# Ids in order

Sorting ids without repetitions gives the one ascending list of them.  In a catalog an id has at
most one position.
-/

namespace Ensemble

namespace ItemId

/-- The ids ascend, so none occurs twice. -/
def Ascending (ids : List ItemId) : Prop := ids.Pairwise (·.text < ·.text)

theorem text_injective : Function.Injective ItemId.text := fun _ _ => ItemId.ext

theorem Ascending.nodup {ids : List ItemId} (h : Ascending ids) : ids.Nodup := by
  refine List.Pairwise.imp (fun {a b} hlt heq => ?_) h
  exact String.lt_irrefl b.text (heq ▸ hlt)

theorem Ascending.eq_of_mem_iff {as bs : List ItemId} (ha : Ascending as) (hb : Ascending bs)
    (h : ∀ id, id ∈ as ↔ id ∈ bs) : as = bs := by
  have : Std.Irrefl fun a b : ItemId => a.text < b.text := ⟨fun a => String.lt_irrefl a.text⟩
  have : Std.Antisymm fun a b : ItemId => a.text < b.text :=
    ⟨fun a b hab hba => absurd (String.lt_trans hab hba) (String.lt_irrefl a.text)⟩
  exact List.Pairwise.eq_of_mem_iff ha hb h

/-! ## Sorting -/

variable {ids : List ItemId}

theorem sorted_perm (ids : List ItemId) : (sorted ids).Perm ids := List.mergeSort_perm ..

@[simp] theorem mem_sorted {id : ItemId} : id ∈ sorted ids ↔ id ∈ ids := List.mem_mergeSort

@[simp] theorem length_sorted : (sorted ids).length = ids.length := (sorted_perm ids).length_eq

theorem pairwise_sorted (ids : List ItemId) : (sorted ids).Pairwise (·.text ≤ ·.text) := by
  have h : (sorted ids).Pairwise fun a b => decide (a.text ≤ b.text) = true := by
    refine List.pairwise_mergeSort (fun a b c hab hbc => ?_) (fun a b => ?_) ids
    · exact decide_eq_true (String.le_trans (of_decide_eq_true hab) (of_decide_eq_true hbc))
    · rw [Bool.or_eq_true, decide_eq_true_iff, decide_eq_true_iff]
      exact String.le_total a.text b.text
  exact h.imp of_decide_eq_true

theorem ascending_sorted (h : ids.Nodup) : Ascending (sorted ids) := by
  have hne : (sorted ids).Nodup := (sorted_perm ids).nodup_iff.2 h
  refine (pairwise_sorted ids).imp₂ (fun a b hle hne => ?_) hne
  exact Std.lt_of_le_of_ne hle (text_injective.ne hne)

end ItemId

/-! ## Positions -/

namespace Catalog

variable {catalog : Catalog} {i j : Nat} {a b : Item} {id : ItemId}

theorem index_eq_of_id_eq (hi : catalog.items[i]? = some a) (hj : catalog.items[j]? = some b)
    (h : a.id = b.id) : i = j := by
  have hlt : i < (catalog.items.map (·.id)).length := by
    rw [List.length_map]
    exact (List.getElem?_eq_some_iff.1 hi).1
  refine (List.getElem?_inj hlt catalog.distinct).1 ?_
  rw [List.getElem?_map, List.getElem?_map, hi, hj, Option.map_some, Option.map_some, h]

theorem isSome_indexOf? : (catalog.indexOf? id).isSome ↔ id ∈ catalog.items.map (·.id) :=
  contains_iff

end Catalog

end Ensemble
