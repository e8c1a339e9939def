import Ensemble.Proofs.Cluster.Order
import Ensemble.Proofs.Clique.IndexSet

/-!
# Sets of items

A search works on sets of positions.  The sets of positions in a catalog stand for the sublists of
its items, one for each, and are told apart by their ascending ids.
-/

namespace Ensemble

namespace ClusterFinder

variable {finder : ClusterFinder} {s t : IndexSet} {i : Nat} {a : Item} {id : ItemId}

/-- A set of positions in the catalog. -/
structure Selection (finder : ClusterFinder) (s : IndexSet) : Prop where
  capacity : s.capacity = finder.catalog.size
  within : s.Within finder.catalog.size

theorem Selection.insert (h : finder.Selection s) (hi : i < finder.catalog.size) :
    finder.Selection (s.insert i) where
  capacity := h.capacity
  within := h.within.insert hi

theorem getElem?_of_lt (h : i < finder.catalog.size) : ∃ a, finder.catalog.items[i]? = some a :=
  ⟨_, List.getElem?_eq_getElem h⟩

/-! ## Members -/

theorem mem_members : a ∈ finder.members s ↔ ∃ i ∈ s.members, finder.catalog.items[i]? = some a :=
  List.mem_filterMap

theorem pairwise_members {R : Item → Item → Prop} :
    (finder.members s).Pairwise R ↔ s.members.Pairwise fun i j =>
      ∀ a, finder.catalog.items[i]? = some a → ∀ b, finder.catalog.items[j]? = some b → R a b :=
  List.pairwise_filterMap

theorem filterMap_range (items : List Item) :
    (List.range items.length).filterMap (items[·]?) = items := by
  induction items with
  | nil => rfl
  | cons a items ih =>
    rw [List.length_cons, List.range_succ_eq_map, List.filterMap_cons, List.filterMap_map]
    exact congrArg (a :: ·) ih

theorem Selection.members_sublist (h : finder.Selection s) :
    (finder.members s).Sublist finder.catalog.items := by
  have := h.within.sublist_range.filterMap (finder.catalog.items[·]?)
  rwa [Catalog.size, filterMap_range] at this

theorem Selection.length_members (h : finder.Selection s) : (finder.members s).length = s.size := by
  refine List.filterMap_length_eq_length.2 fun i hi => ?_
  obtain ⟨a, ha⟩ := getElem?_of_lt (h.within i hi)
  rw [ha]
  rfl

theorem Selection.size_le (h : finder.Selection s) : s.size ≤ finder.catalog.size := by
  rw [← h.length_members]
  exact h.members_sublist.length_le

/-- Every sublist of the catalog is the list of members of a set of positions. -/
theorem exists_selection {S : List Item} (h : S.Sublist finder.catalog.items) :
    ∃ s, finder.Selection s ∧ finder.members s = S := by
  rw [← filterMap_range finder.catalog.items, List.sublist_filterMap_iff] at h
  obtain ⟨is, his, rfl⟩ := h
  refine ⟨⟨is, List.pairwise_lt_range.sublist his, finder.catalog.size⟩, ⟨rfl, fun i hi => ?_⟩, rfl⟩
  exact List.mem_range.1 (his.subset hi)

/-! ## Ids -/

theorem mem_sortedIds :
    id ∈ finder.sortedIds s ↔ ∃ i ∈ s.members, finder.catalog.indexOf? id = some i := by
  rw [sortedIds, ItemId.mem_sorted, List.mem_map]
  simp only [mem_members, Catalog.indexOf?_eq_some_iff]
  constructor
  · rintro ⟨a, ⟨i, hi, ha⟩, rfl⟩
    exact ⟨i, hi, a, ha, rfl⟩
  · rintro ⟨i, hi, a, ha, rfl⟩
    exact ⟨a, ⟨i, hi, ha⟩, rfl⟩

theorem id_mem_sortedIds (ha : finder.catalog.items[i]? = some a) :
    a.id ∈ finder.sortedIds s ↔ i ∈ s.members := by
  have hindex : finder.catalog.indexOf? a.id = some i :=
    Catalog.indexOf?_eq_some_iff.2 ⟨a, ha, rfl⟩
  rw [mem_sortedIds, hindex]
  constructor
  · rintro ⟨j, hj, heq⟩
    exact Option.some.inj heq ▸ hj
  · intro hi
    exact ⟨i, hi, rfl⟩

theorem Selection.ids_nodup (h : finder.Selection s) :
    ((finder.members s).map (·.id)).Nodup :=
  finder.catalog.distinct.sublist (h.members_sublist.map _)

theorem Selection.ascending_sortedIds (h : finder.Selection s) :
    ItemId.Ascending (finder.sortedIds s) :=
  ItemId.ascending_sorted h.ids_nodup

theorem Selection.length_sortedIds (h : finder.Selection s) :
    (finder.sortedIds s).length = s.size := by
  rw [sortedIds, ItemId.length_sorted, List.length_map, h.length_members]

theorem Selection.subset_iff (hs : finder.Selection s) :
    finder.sortedIds s ⊆ finder.sortedIds t ↔ s.members ⊆ t.members := by
  constructor
  · intro h i hi
    obtain ⟨a, ha⟩ := getElem?_of_lt (hs.within i hi)
    exact (id_mem_sortedIds ha).1 (h ((id_mem_sortedIds ha).2 hi))
  · intro h id hid
    obtain ⟨i, hi, hindex⟩ := mem_sortedIds.1 hid
    exact mem_sortedIds.2 ⟨i, h hi, hindex⟩

/-- Sets of positions are told apart by their ids. -/
theorem Selection.eq_of_ids (hs : finder.Selection s) (ht : finder.Selection t)
    (h : ∀ id, id ∈ finder.sortedIds s ↔ id ∈ finder.sortedIds t) : s = t := by
  refine IndexSet.eq_of_mem_iff (hs.capacity.trans ht.capacity.symm) fun i => ⟨?_, ?_⟩
  · exact fun hi => hs.subset_iff.1 (fun id => (h id).1) hi
  · exact fun hi => ht.subset_iff.1 (fun id => (h id).2) hi

theorem Selection.eq_of_sortedIds_eq (hs : finder.Selection s) (ht : finder.Selection t)
    (h : finder.sortedIds s = finder.sortedIds t) : s = t :=
  hs.eq_of_ids ht fun id => by rw [h]

theorem mem_sortedIds_insert (ha : finder.catalog.items[i]? = some a) :
    id ∈ finder.sortedIds (s.insert i) ↔ id = a.id ∨ id ∈ finder.sortedIds s := by
  have hindex : finder.catalog.indexOf? id = some i ↔ id = a.id := by
    rw [Catalog.indexOf?_eq_some_iff, ha]
    constructor
    · rintro ⟨b, hb, rfl⟩
      rw [Option.some.inj hb]
    · rintro rfl
      exact ⟨a, rfl, rfl⟩
  rw [mem_sortedIds, mem_sortedIds, ← hindex]
  simp only [IndexSet.mem_insert, or_and_right, exists_or, exists_eq_left]

end ClusterFinder

end Ensemble
