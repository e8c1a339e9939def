import Ensemble.Clique.IndexSet
import Mathlib.Data.List.Sort

/-!
# Sets of indices below a bound

A set of indices is determined by its members.  Those of a set below `n` are some of
`0, …, n - 1`, in the same order.
-/

namespace Ensemble

namespace IndexSet

variable {s t : IndexSet} {i n : Nat}

/-- Every member is below a bound. -/
def Within (s : IndexSet) (n : Nat) : Prop := ∀ i ∈ s.members, i < n

instance (s : IndexSet) (n : Nat) : Decidable (s.Within n) :=
  inferInstanceAs (Decidable (∀ i ∈ s.members, i < n))

theorem nodup_members (s : IndexSet) : s.members.Nodup := s.ascending.nodup

theorem parts_injective : Function.Injective fun s : IndexSet => (s.members, s.capacity) :=
  fun _ _ h => IndexSet.ext (Prod.mk.inj h).1 (Prod.mk.inj h).2

theorem eq_of_mem_iff (hcap : s.capacity = t.capacity)
    (h : ∀ i, i ∈ s.members ↔ i ∈ t.members) : s = t :=
  IndexSet.ext (s.ascending.eq_of_mem_iff t.ascending h) hcap

theorem Within.sublist_range (h : s.Within n) : s.members.Sublist (List.range n) := by
  refine List.sublist_of_subperm_of_pairwise ?_ s.ascending List.pairwise_lt_range
  exact List.subperm_of_subset s.nodup_members fun i hi => List.mem_range.2 (h i hi)

/-! ## Insertion -/

theorem size_insert (h : i ∉ s.members) : (s.insert i).size = s.size + 1 := by
  have hperm : (s.insert i).members.Perm (i :: s.members) := by
    refine (List.perm_ext_iff_of_nodup (s.insert i).nodup_members ?_).2 fun k => ?_
    · exact List.nodup_cons.2 ⟨h, s.nodup_members⟩
    · rw [mem_insert, List.mem_cons]
  exact hperm.length_eq

theorem Within.insert (h : s.Within n) (hi : i < n) : (s.insert i).Within n := by
  intro k hk
  rcases mem_insert.1 hk with rfl | hk
  · exact hi
  · exact h k hk

/-! ## Unions -/

theorem capacity_foldl_insert {indices : List Nat} :
    (indices.foldl IndexSet.insert s).capacity = s.capacity := by
  induction indices generalizing s with
  | nil => rfl
  | cons i rest ih => exact ih

theorem mem_foldl_union {sets : List IndexSet} :
    i ∈ (sets.foldl union s).members ↔ i ∈ s.members ∨ ∃ t ∈ sets, i ∈ t.members := by
  induction sets generalizing s with
  | nil => simp
  | cons t sets ih => rw [List.foldl_cons, ih, mem_union, List.exists_mem_cons_iff, or_assoc]

theorem capacity_foldl_union {sets : List IndexSet} :
    (sets.foldl union s).capacity = s.capacity := by
  induction sets generalizing s with
  | nil => rfl
  | cons t sets ih => exact ih.trans capacity_foldl_insert

end IndexSet

end Ensemble
