import Ensemble.Proofs.Cluster.Report

/-!
# Clusters that cannot grow

Whether a cluster can grow is computed from the common neighbours of its members and from the
cluster rules.  In a complete listing this is the same as asking whether another cluster has exactly
one item more.  As a cluster that can grow has a larger one above it, every cluster lies in one that
cannot.
-/

namespace Ensemble

/-- The second cluster has the items of the first and exactly one more. -/
def Cluster.GrowsTo (c d : Cluster) : Prop :=
  ∃ id, id ∉ c.itemIds ∧ ∀ x, x ∈ d.itemIds ↔ x = id ∨ x ∈ c.itemIds

namespace ClusterFinder

variable {finder : ClusterFinder} {g : Graph} {min max : Nat} {s t : IndexSet} {i : Nat}
  {c d : Cluster}

/-! ## Candidates -/

theorem isMaximal_go {candidates : List Nat} {b : Bool}
    (h : isMaximal.go finder s candidates = .ok b) :
    b = true ↔ ∀ i ∈ candidates, finder.passes (s.insert i) ≠ .ok true := by
  induction candidates with
  | nil =>
    obtain rfl := Except.ok.inj h
    simp
  | cons i rest ih =>
    rw [isMaximal.go] at h
    obtain ⟨grows, hgrows, h⟩ := bind_eq_ok_iff.1 h
    rw [List.forall_mem_cons, hgrows]
    cases grows with
    | true =>
      obtain rfl := Except.ok.inj h
      simp
    | false =>
      rw [ih h]
      simp

/-- A set is maximal if it is as large as allowed, or no candidate keeps the rules satisfied. -/
theorem isMaximal_iff {candidates : IndexSet} {b : Bool}
    (h : finder.isMaximal s max candidates = .ok b) :
    b = true ↔
      ∀ i ∈ candidates.members, s.size < max → finder.passes (s.insert i) ≠ .ok true := by
  unfold isMaximal at h
  by_cases hsize : s.size ≥ max
  · rw [if_pos hsize] at h
    obtain rfl := Except.ok.inj h
    simp [Nat.not_lt.2 hsize]
  · rw [if_neg hsize] at h
    rw [isMaximal_go h]
    simp [Nat.lt_of_not_le hsize]

/-! ## Growing sets -/

/-- A wanted set grows to wanted sets by the common neighbours that keep the rules satisfied. -/
theorem Wanted.insert_iff (h : finder.Wanted g min max s) (hmin : 1 ≤ min)
    (hg : finder.Depicts g) :
    (i ∉ s.members ∧ finder.Wanted g min max (s.insert i)) ↔
      i ∈ (g.commonNeighbors s).members ∧ s.size < max ∧ finder.passes (s.insert i) = .ok true := by
  have hne := h.members_ne_nil hmin
  rw [Graph.mem_commonNeighbors hne]
  constructor
  · rintro ⟨hi, hgrown⟩
    have hsize := IndexSet.size_insert hi
    have hle := hgrown.le_max
    exact ⟨⟨hi, ((Graph.clique_insert_iff hi).1 hgrown.clique).2⟩, by omega, hgrown.passes⟩
  · rintro ⟨⟨hi, hadj⟩, hlt, hpass⟩
    have hsize := IndexSet.size_insert hi
    have hle := h.min_le
    obtain ⟨j, hj⟩ := List.exists_mem_of_ne_nil _ hne
    have hbelow : i < finder.catalog.size := hg.size ▸ (Graph.adjacent_lt (hadj j hj)).2
    refine ⟨hi, h.selection.insert hbelow, ?_, by omega, by omega, hpass⟩
    exact (Graph.clique_insert_iff hi).2 ⟨h.clique, hadj⟩

/-- The record of a wanted set says whether a larger one has exactly one item more. -/
theorem isMaximum_of_clusterOf (h : finder.Wanted g min max s) (hmin : 1 ≤ min)
    (hg : finder.Depicts g) (hc : finder.clusterOf g max s = .ok c) :
    c.isMaximum = true ↔ ∀ i, i ∉ s.members → ¬ finder.Wanted g min max (s.insert i) := by
  obtain ⟨_, isMaximum, -, hmax, rfl⟩ := clusterOf_eq_ok_iff.1 hc
  rw [isMaximal_iff hmax]
  constructor
  · intro hall i hi hgrown
    obtain ⟨hmem, hlt, hpass⟩ := (h.insert_iff hmin hg).1 ⟨hi, hgrown⟩
    exact hall i hmem hlt hpass
  · intro hnone i hmem hlt hpass
    obtain ⟨hi, hgrown⟩ := (h.insert_iff hmin hg).2 ⟨hmem, hlt, hpass⟩
    exact hnone i hi hgrown

theorem growsTo_iff (hs : finder.Selection s) (ht : finder.Selection t)
    (hc : c.itemIds = finder.sortedIds s) (hd : d.itemIds = finder.sortedIds t) :
    c.GrowsTo d ↔ ∃ i, i ∉ s.members ∧ t = s.insert i := by
  unfold Cluster.GrowsTo
  rw [hc, hd]
  constructor
  · rintro ⟨id, hid, hall⟩
    obtain ⟨i, hi, hindex⟩ := mem_sortedIds.1 ((hall id).2 (.inl rfl))
    obtain ⟨a, ha, rfl⟩ := Catalog.indexOf?_eq_some_iff.1 hindex
    have hinsert : finder.Selection (s.insert i) := hs.insert (ht.within i hi)
    refine ⟨i, fun hmem => hid ((id_mem_sortedIds ha).2 hmem), ?_⟩
    refine ht.eq_of_ids hinsert fun x => ?_
    rw [hall, mem_sortedIds_insert ha]
  · rintro ⟨i, hi, rfl⟩
    obtain ⟨a, ha⟩ := getElem?_of_lt (ht.within i (IndexSet.mem_insert.2 (.inl rfl)))
    refine ⟨a.id, fun hid => hi ((id_mem_sortedIds ha).1 hid), fun x => ?_⟩
    exact mem_sortedIds_insert ha

/-! ## Covering -/

namespace Listing

variable {analysis : ClusterAnalysis}

theorem isMaximum_iff (L : finder.Listing analysis) (hc : c ∈ analysis.clusters) :
    c.isMaximum = true ↔ ¬ ∃ d ∈ analysis.clusters, c.GrowsTo d := by
  obtain ⟨s, hs, hc⟩ := L.mem_clusters.1 hc
  have hmin := one_le_of_sizeBounds L.bounds
  rw [isMaximum_of_clusterOf hs hmin L.depicts hc]
  constructor
  · rintro hnone ⟨d, hd, hgrows⟩
    obtain ⟨t, ht, hd⟩ := L.mem_clusters.1 hd
    obtain ⟨i, hi, rfl⟩ := (growsTo_iff hs.selection ht.selection (itemIds_of_clusterOf hc)
      (itemIds_of_clusterOf hd)).1 hgrows
    exact hnone i hi ht
  · intro hnone i hi hgrown
    obtain ⟨d, hd, hrecord⟩ := L.exists_record hgrown
    refine hnone ⟨d, hd, ?_⟩
    exact (growsTo_iff hs.selection hgrown.selection (itemIds_of_clusterOf hc)
      (itemIds_of_clusterOf hrecord)).2 ⟨i, hi, rfl⟩

theorem size_of_growsTo (L : finder.Listing analysis) (hc : c ∈ analysis.clusters)
    (hd : d ∈ analysis.clusters) (h : c.GrowsTo d) : d.size = c.size + 1 ∧ d.size ≤ L.max := by
  obtain ⟨s, hs, hc⟩ := L.mem_clusters.1 hc
  obtain ⟨t, ht, hd⟩ := L.mem_clusters.1 hd
  obtain ⟨i, hi, rfl⟩ := (growsTo_iff hs.selection ht.selection (itemIds_of_clusterOf hc)
    (itemIds_of_clusterOf hd)).1 h
  rw [size_of_clusterOf hc, size_of_clusterOf hd]
  exact ⟨IndexSet.size_insert hi, ht.le_max⟩

/-- Every cluster lies in one that cannot grow, by induction on how much larger it may become. -/
theorem exists_maximal (L : finder.Listing analysis) (hc : c ∈ analysis.clusters) :
    ∃ m ∈ analysis.maximalClusters, c.itemIds ⊆ m.itemIds := by
  induction hroom : L.max - c.size using Nat.strongRecOn generalizing c with
  | ind room ih =>
    by_cases hmaximum : c.isMaximum = true
    · exact ⟨c, List.mem_filter.2 ⟨hc, hmaximum⟩, fun _ hid => hid⟩
    · -- A larger cluster is one item nearer to the greatest size.
      rw [L.isMaximum_iff hc, not_not] at hmaximum
      obtain ⟨d, hd, hgrows⟩ := hmaximum
      obtain ⟨hsize, hle⟩ := L.size_of_growsTo hc hd hgrows
      have hlt : L.max - d.size < room := by omega
      obtain ⟨m, hm, hsub⟩ := ih _ hlt hd rfl
      obtain ⟨id, -, hall⟩ := hgrows
      exact ⟨m, hm, fun x hx => hsub ((hall x).2 (.inr hx))⟩

theorem covered_eq_clusters (L : finder.Listing analysis) :
    analysis.totals.covered = (analysis.clusters.flatMap (·.itemIds)).dedup.length := by
  have hsets : ∀ s ∈ L.sets, finder.Selection s := fun s hs => ((L.mem_sets s).1 hs).selection
  rw [L.totals, ofSets_eq_ofIds hsets, ClusterTotals.ofIds, ← L.map_itemIds, List.flatMap_def]

/-- The items in clusters are those of the clusters that cannot grow. -/
theorem covered_eq (L : finder.Listing analysis) :
    analysis.totals.covered = (analysis.maximalClusters.flatMap (·.itemIds)).dedup.length := by
  rw [L.covered_eq_clusters]
  refine List.Perm.length_eq ((List.perm_ext_iff_of_nodup (List.nodup_dedup _)
    (List.nodup_dedup _)).2 fun id => ?_)
  rw [List.mem_dedup, List.mem_dedup, List.mem_flatMap, List.mem_flatMap]
  constructor
  · rintro ⟨c, hc, hid⟩
    obtain ⟨m, hm, hsub⟩ := L.exists_maximal hc
    exact ⟨m, hm, hsub hid⟩
  · rintro ⟨m, hm, hid⟩
    exact ⟨m, List.mem_of_mem_filter hm, hid⟩

end Listing

/-- A cluster is marked as one that cannot grow if and only if no listed cluster has its items and
exactly one more.  So every cluster lies in a marked one, and the marked ones cover all items that
are in clusters. -/
theorem isMaximum_iff_no_larger_cluster {analysis : ClusterAnalysis}
    (hcap : finder.config.maxClusters = none) (h : finder.analyze = .ok analysis) :
    (∀ c ∈ analysis.clusters, c.isMaximum = true ↔ ¬ ∃ d ∈ analysis.clusters, c.GrowsTo d) ∧
    (∀ c ∈ analysis.clusters, ∃ m ∈ analysis.maximalClusters, c.itemIds ⊆ m.itemIds) ∧
    analysis.totals.covered = (analysis.maximalClusters.flatMap (·.itemIds)).dedup.length := by
  obtain ⟨L⟩ := nonempty_listing hcap h
  refine ⟨?_, ?_, L.covered_eq⟩
  · intro c hc
    exact L.isMaximum_iff hc
  · intro c hc
    exact L.exists_maximal hc

theorem isMaximum_iff_no_larger_cluster_wardrobe :
    wardrobe.config.maxClusters = none ∧ ∃ analysis, wardrobe.analyze = .ok analysis ∧
      (∀ c ∈ analysis.clusters, c.isMaximum = true ↔ ¬ ∃ d ∈ analysis.clusters, c.GrowsTo d) ∧
      (∀ c ∈ analysis.clusters, ∃ m ∈ analysis.maximalClusters, c.itemIds ⊆ m.itemIds) ∧
      analysis.totals.covered = (analysis.maximalClusters.flatMap (·.itemIds)).dedup.length := by
  obtain ⟨analysis, h⟩ := exists_analysis_wardrobe
  exact ⟨rfl, analysis, h, isMaximum_iff_no_larger_cluster rfl h⟩

end ClusterFinder

end Ensemble
