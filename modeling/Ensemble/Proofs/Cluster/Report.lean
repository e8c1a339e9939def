import Ensemble.Proofs.Cluster.Listing
import Mathlib.Data.List.Dedup

/-!
# What an analysis says about its clusters

The relationships and the totals of an analysis are computed from sets of positions.  They can be
read off the ids of the reported clusters, so two analyses that list the same ids agree on them,
whatever the positions are.
-/

namespace Ensemble

/-! ## Lists of ids -/

namespace Relationship

/-- The relationship of the ids of two clusters at given positions, if they share one. -/
def ofIds? (a b : List ItemId × Nat) : Option Relationship :=
  let shared := (a.1.filter (· ∈ b.1)).length
  if shared = 0 then none
  else some ⟨a.2, b.2, .ofSizes a.1.length b.1.length shared, shared⟩

theorem positions_of_ofIds? {a b : List ItemId × Nat} {r : Relationship}
    (h : ofIds? a b = some r) : r.cluster = a.2 ∧ r.related = b.2 := by
  unfold ofIds? at h
  dsimp only at h
  split at h
  · cases h
  · obtain rfl := Option.some.inj h
    exact ⟨rfl, rfl⟩

/-- The relationships of clusters with the given ids. -/
def among (ids : List (List ItemId)) : List Relationship :=
  (pairsOf ids.zipIdx).filterMap fun (a, b) => ofIds? a b

end Relationship

/-- The totals of clusters with the given ids. -/
def ClusterTotals.ofIds (ids : List (List ItemId)) : ClusterTotals where
  clusters := ids.length
  maxSize := (ids.map List.length).max?.getD 0
  meanSize :=
    if ids.isEmpty then 0
    else Float.ofNat ((ids.map List.length).foldl (· + ·) 0) / Float.ofNat ids.length
  covered := ids.flatten.dedup.length

namespace ClusterFinder

variable {finder : ClusterFinder} {s t : IndexSet} {sets : List IndexSet}

/-! ## Relationships -/

theorem Selection.inter (hs : finder.Selection s) : finder.Selection (s.inter t) where
  capacity := hs.capacity
  within := fun i hi => hs.within i (IndexSet.mem_inter.1 hi).1

theorem sortedIds_inter (hs : finder.Selection s) :
    finder.sortedIds (s.inter t) = (finder.sortedIds s).filter (· ∈ finder.sortedIds t) := by
  have hascending := hs.ascending_sortedIds.filter (· ∈ finder.sortedIds t)
  refine hs.inter.ascending_sortedIds.eq_of_mem_iff hascending fun id => ?_
  rw [List.mem_filter, decide_eq_true_iff]
  simp only [mem_sortedIds, IndexSet.mem_inter]
  constructor
  · rintro ⟨i, ⟨hi, hi'⟩, hindex⟩
    exact ⟨⟨i, hi, hindex⟩, ⟨i, hi', hindex⟩⟩
  · rintro ⟨⟨i, hi, hindex⟩, ⟨j, hj, hindex'⟩⟩
    obtain rfl := Option.some.inj (hindex.symm.trans hindex')
    exact ⟨i, ⟨hi, hj⟩, hindex⟩

theorem ofSets?_eq_ofIds? (hs : finder.Selection s) (ht : finder.Selection t) (i j : Nat) :
    Relationship.ofSets? (s, i) (t, j)
      = Relationship.ofIds? (finder.sortedIds s, i) (finder.sortedIds t, j) := by
  unfold Relationship.ofSets? Relationship.ofIds?
  rw [← hs.inter.length_sortedIds, sortedIds_inter hs, ← hs.length_sortedIds, ← ht.length_sortedIds]

theorem all_eq_among (hsets : ∀ s ∈ sets, finder.Selection s) :
    Relationship.all sets = Relationship.among (sets.map finder.sortedIds) := by
  unfold Relationship.all Relationship.among
  rw [List.zipIdx_map, pairsOf_map, List.filterMap_map]
  refine List.filterMap_congr ?_
  rintro ⟨⟨s, i⟩, ⟨t, j⟩⟩ hp
  obtain ⟨-, hs, ht⟩ := mem_pairsOf_zipIdx.1 hp
  have hsels := hsets s (List.mem_of_getElem? hs)
  have hselt := hsets t (List.mem_of_getElem? ht)
  exact ofSets?_eq_ofIds? hsels hselt i j

/-! ## Totals -/

theorem foldl_max_eq (sizes : List Nat) : sizes.foldl Nat.max 0 = sizes.max?.getD 0 := by
  cases sizes with
  | nil => rfl
  | cons n rest =>
    rw [List.foldl_cons, List.max?_cons', Option.getD_some]
    exact congrArg (List.foldl Nat.max · rest) (Nat.zero_max n)

theorem selection_foldl_union (hsets : ∀ s ∈ sets, finder.Selection s) :
    finder.Selection (sets.foldl IndexSet.union (.empty finder.catalog.size)) where
  capacity := IndexSet.capacity_foldl_union
  within := by
    intro i hi
    obtain hi | ⟨s, hs, hi⟩ := IndexSet.mem_foldl_union.1 hi
    · cases hi
    · exact (hsets s hs).within i hi

/-- The union of some sets has as many members as there are ids in them. -/
theorem size_foldl_union (hsets : ∀ s ∈ sets, finder.Selection s) :
    (sets.foldl IndexSet.union (.empty finder.catalog.size)).size
      = (sets.map finder.sortedIds).flatten.dedup.length := by
  have hunion := selection_foldl_union hsets
  rw [← hunion.length_sortedIds]
  -- Two lists without repetitions that have the same members are equally long.
  refine List.Perm.length_eq ((List.perm_ext_iff_of_nodup ?_ (List.nodup_dedup _)).2 fun id => ?_)
  · exact hunion.ascending_sortedIds.nodup
  · rw [List.mem_dedup, ← List.flatMap_def, List.mem_flatMap, mem_sortedIds]
    simp only [IndexSet.mem_foldl_union, mem_sortedIds, IndexSet.empty, List.not_mem_nil, false_or]
    constructor
    · rintro ⟨i, ⟨s, hs, hi⟩, hindex⟩
      exact ⟨s, hs, i, hi, hindex⟩
    · rintro ⟨s, hs, i, hi, hindex⟩
      exact ⟨i, ⟨s, hs, hi⟩, hindex⟩

theorem ofSets_eq_ofIds (hsets : ∀ s ∈ sets, finder.Selection s) :
    ClusterTotals.ofSets finder.catalog.size sets = .ofIds (sets.map finder.sortedIds) := by
  have hsizes : (sets.map finder.sortedIds).map List.length = sets.map IndexSet.size := by
    rw [List.map_map]
    exact List.map_congr_left fun s hs => (hsets s hs).length_sortedIds
  unfold ClusterTotals.ofSets ClusterTotals.ofIds
  dsimp only
  rw [hsizes, size_foldl_union hsets, foldl_max_eq, List.length_map, List.isEmpty_map]

/-! ## Analyses -/

/-- An analysis is made of records of sets of positions; the rest of it is read off their ids. -/
theorem report_of_analyzeWith {cancel : Cancellation} {analysis : ClusterAnalysis}
    (h : finder.analyzeWith cancel = .ok analysis) :
    analysis.relationships = Relationship.among (analysis.clusters.map (·.itemIds)) ∧
      analysis.totals = .ofIds (analysis.clusters.map (·.itemIds)) ∧
      ∀ c ∈ analysis.clusters, c.size = c.itemIds.length := by
  obtain ⟨min, max, g, result, clusters, -, hgraph, hresult, hclusters, rfl⟩ :=
    analyzeWith_eq_ok_iff.1 h
  have hsets : ∀ s ∈ finder.kept (finder.sortSets result.found), finder.Selection s := by
    intro s hs
    have hfound := (finder.sortSets_perm _).subset ((finder.kept_sublist _).subset hs)
    exact (selection_of_mem_found (depicts_of_graph hgraph).size hresult hfound).1
  have hids : clusters.map (·.itemIds) = (finder.kept (finder.sortSets result.found)).map _ :=
    map_of_mapM hclusters fun _ _ hc => itemIds_of_clusterOf hc
  refine ⟨?_, ?_, fun c hc => ?_⟩
  · rw [hids]
    exact all_eq_among hsets
  · rw [hids]
    exact ofSets_eq_ofIds hsets
  · obtain ⟨s, hs, hc⟩ := (mem_of_mapM hclusters).1 hc
    rw [size_of_clusterOf hc, itemIds_of_clusterOf hc, (hsets s hs).length_sortedIds]

end ClusterFinder

end Ensemble
