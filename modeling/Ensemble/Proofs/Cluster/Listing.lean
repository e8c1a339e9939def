import Ensemble.Proofs.Catalog.Building
import Ensemble.Proofs.Cluster.Search

/-!
# The sets that an analysis lists

An analysis that is neither stopped nor cut off lists the wanted sets in a strict order, each with
its record.  `Listing` collects what is known about such an analysis.
-/

namespace Ensemble

namespace ClusterFinder

variable {finder : ClusterFinder} {sets : List IndexSet} {min max : Nat}

theorem one_le_of_sizeBounds (h : finder.sizeBounds = .ok (min, max)) : 1 ≤ min := by
  obtain ⟨-, -, h⟩ := bind_eq_ok_iff.1 h
  obtain ⟨rfl, -⟩ := Prod.mk.inj (Except.ok.inj h)
  exact Nat.le_max_right ..

/-! ## Sorting -/

theorem sortSets_perm (finder : ClusterFinder) (sets : List IndexSet) :
    (finder.sortSets sets).Perm sets := by
  have h := (List.mergeSort_perm (sets.map fun s => (finder.sortedIds s, s))
    fun a b => precedes a.1 b.1).map Prod.snd
  rwa [List.map_map, Function.comp_def, List.map_id'] at h

theorem pairwise_sortSets (finder : ClusterFinder) (sets : List IndexSet) :
    (finder.sortSets sets).Pairwise fun s t =>
      precedes (finder.sortedIds s) (finder.sortedIds t) = true := by
  unfold sortSets
  rw [List.pairwise_map]
  have hkey : ∀ p ∈ (sets.map fun s => (finder.sortedIds s, s)).mergeSort fun a b =>
      precedes a.1 b.1, p.1 = finder.sortedIds p.2 := by
    intro p hp
    obtain ⟨s, -, rfl⟩ := List.mem_map.1 (List.mem_mergeSort.1 hp)
    rfl
  refine (List.pairwise_mergeSort ?_ ?_ _).imp_of_mem fun {p q} hp hq h => ?_
  · intro p q r hpq hqr
    exact precedes_trans hpq hqr
  · intro p q
    exact precedes_total p.1 q.1
  · rw [← hkey p hp, ← hkey q hq]
    exact h

/-- Different sets are reported in a strict order. -/
theorem before_sortSets (hsets : sets.Nodup) (hsel : ∀ s ∈ sets, finder.Selection s) :
    (finder.sortSets sets).Pairwise fun s t =>
      Before (finder.sortedIds s) (finder.sortedIds t) := by
  have hperm := finder.sortSets_perm sets
  have hne : (finder.sortSets sets).Nodup := hperm.nodup_iff.2 hsets
  refine ((finder.pairwise_sortSets sets).and hne).imp_of_mem fun {s t} hs ht h => ?_
  refine before_of_precedes h.1 fun heq => h.2 ?_
  exact (hsel s (hperm.subset hs)).eq_of_sortedIds_eq (hsel t (hperm.subset ht)) heq

/-- A part of some sets is reported in the order in which the sets are. -/
theorem sortSets_sublist {part : List IndexSet} (hsets : sets.Nodup)
    (hsel : ∀ s ∈ sets, finder.Selection s) (hsub : part.Sublist sets) :
    (finder.sortSets part).Sublist (finder.sortSets sets) := by
  have : Std.Antisymm fun s t : IndexSet => Before (finder.sortedIds s) (finder.sortedIds t) :=
    ⟨fun _ _ hst hts => absurd hts hst.asymm⟩
  have hsubperm : (finder.sortSets part).Subperm (finder.sortSets sets) := by
    refine ((finder.sortSets_perm part).subperm.trans hsub.subperm).trans ?_
    exact (finder.sortSets_perm sets).symm.subperm
  refine List.sublist_of_subperm_of_pairwise hsubperm ?_ (before_sortSets hsets hsel)
  exact before_sortSets (hsets.sublist hsub) fun s hs => hsel s (hsub.subset hs)

/-! ## Analyses -/

theorem clusterOf_eq_ok_iff {graph : Graph} {s : IndexSet} {c : Cluster} :
    finder.clusterOf graph max s = .ok c ↔
      ∃ evaluations isMaximum, finder.rules.evaluate (finder.members s) = .ok evaluations ∧
        finder.isMaximal s max (graph.commonNeighbors s) = .ok isMaximum ∧
        c = ⟨finder.sortedIds s, s.size, evaluations, true, isMaximum⟩ := by
  unfold clusterOf evaluateRules
  simp only [bind_eq_ok_iff, mapError_eq_ok_iff, pure_eq_ok, Except.ok.injEq, exists_and_left]
  simp only [eq_comm (b := c)]

theorem itemIds_of_clusterOf {graph : Graph} {s : IndexSet} {c : Cluster}
    (h : finder.clusterOf graph max s = .ok c) : c.itemIds = finder.sortedIds s := by
  obtain ⟨_, _, -, -, rfl⟩ := clusterOf_eq_ok_iff.1 h
  rfl

theorem size_of_clusterOf {graph : Graph} {s : IndexSet} {c : Cluster}
    (h : finder.clusterOf graph max s = .ok c) : c.size = s.size := by
  obtain ⟨_, _, -, -, rfl⟩ := clusterOf_eq_ok_iff.1 h
  rfl

/-- The sets that are reported of those that are found. -/
def kept (finder : ClusterFinder) (sets : List IndexSet) : List IndexSet :=
  match finder.config.maxClusters with
  | some cap => sets.take cap
  | none => sets

theorem kept_sublist (finder : ClusterFinder) (sets : List IndexSet) :
    (finder.kept sets).Sublist sets := by
  unfold kept
  split
  · exact List.take_sublist _ _
  · exact List.Sublist.refl _

/-- Whether more sets are found than are reported. -/
def cuts (finder : ClusterFinder) (sets : List IndexSet) : Bool :=
  match finder.config.maxClusters with
  | some cap => decide (sets.length > cap)
  | none => false

/-- What an analysis is made of. -/
theorem analyzeWith_eq_ok_iff {cancel : Cancellation} {analysis : ClusterAnalysis} :
    finder.analyzeWith cancel = .ok analysis ↔
      ∃ min max graph result clusters,
        finder.sizeBounds = .ok (min, max) ∧ finder.graph = .ok graph ∧
        (finder.search graph min max cancel).run.run' 0 = .ok result ∧
        (finder.kept (finder.sortSets result.found)).mapM (finder.clusterOf graph max)
          = .ok clusters ∧
        analysis = {
          catalog := finder.catalog.name
          pairRules := finder.matcher.rules.name
          clusterRules := finder.rules.name
          clusters
          relationships := Relationship.all (finder.kept (finder.sortSets result.found))
          totals := .ofSets finder.catalog.size (finder.kept (finder.sortSets result.found))
          truncated := finder.cuts (finder.sortSets result.found)
          cancelled := result.cancelled } := by
  unfold analyzeWith kept cuts
  cases finder.config.maxClusters
  all_goals
    simp only [bind_eq_ok_iff, pure_eq_ok, Except.ok.injEq, Prod.exists, exists_and_left,
      eq_comm (b := analysis)]

/-- What an analysis that is not cut off is made of. -/
theorem analyzeWith_eq_ok_iff_of_uncapped (hcap : finder.config.maxClusters = none)
    {cancel : Cancellation} {analysis : ClusterAnalysis} :
    finder.analyzeWith cancel = .ok analysis ↔
      ∃ min max graph result clusters,
        finder.sizeBounds = .ok (min, max) ∧ finder.graph = .ok graph ∧
        (finder.search graph min max cancel).run.run' 0 = .ok result ∧
        (finder.sortSets result.found).mapM (finder.clusterOf graph max) = .ok clusters ∧
        analysis = {
          catalog := finder.catalog.name
          pairRules := finder.matcher.rules.name
          clusterRules := finder.rules.name
          clusters
          relationships := Relationship.all (finder.sortSets result.found)
          totals := .ofSets finder.catalog.size (finder.sortSets result.found)
          truncated := false
          cancelled := result.cancelled } := by
  rw [analyzeWith_eq_ok_iff]
  unfold kept cuts
  rw [hcap]

/-- The sets that an analysis lists, with the bounds and the graph of the search. -/
structure Listing (finder : ClusterFinder) (analysis : ClusterAnalysis) where
  min : Nat
  max : Nat
  graph : Graph
  sets : List IndexSet
  bounds : finder.sizeBounds = .ok (min, max)
  depicts : finder.Depicts graph
  mem_sets : ∀ s, s ∈ sets ↔ finder.Wanted graph min max s
  ordered : sets.Pairwise fun s t => Before (finder.sortedIds s) (finder.sortedIds t)
  records : sets.mapM (finder.clusterOf graph max) = .ok analysis.clusters
  totals : analysis.totals = .ofSets finder.catalog.size sets

/-- An analysis that is neither stopped nor cut off has a listing. -/
theorem nonempty_listing {analysis : ClusterAnalysis} (hcap : finder.config.maxClusters = none)
    (h : finder.analyze = .ok analysis) : Nonempty (finder.Listing analysis) := by
  obtain ⟨min, max, graph, result, clusters, hbounds, hgraph, hresult, hclusters, rfl⟩ :=
    (analyzeWith_eq_ok_iff_of_uncapped hcap).1 h
  have hdepicts := depicts_of_graph hgraph
  obtain ⟨-, hnodup, hfound⟩ := found_of_search hdepicts (one_le_of_sizeBounds hbounds) hresult
  have hsets : ∀ s, s ∈ finder.sortSets result.found ↔ finder.Wanted graph min max s :=
    fun s => (finder.sortSets_perm _).mem_iff.trans (hfound s)
  exact ⟨{
    min, max, graph
    sets := finder.sortSets result.found
    bounds := hbounds
    depicts := hdepicts
    mem_sets := hsets
    ordered := before_sortSets hnodup fun s hs => ((hfound s).1 hs).selection
    records := hclusters
    totals := rfl }⟩

namespace Listing

variable {analysis : ClusterAnalysis} {c : Cluster}

/-- The clusters of the analysis are the records of the wanted sets. -/
theorem mem_clusters (L : finder.Listing analysis) :
    c ∈ analysis.clusters ↔
      ∃ s, finder.Wanted L.graph L.min L.max s ∧ finder.clusterOf L.graph L.max s = .ok c := by
  rw [mem_of_mapM L.records]
  simp only [L.mem_sets]

theorem exists_record (L : finder.Listing analysis) {s : IndexSet}
    (hs : finder.Wanted L.graph L.min L.max s) :
    ∃ c ∈ analysis.clusters, finder.clusterOf L.graph L.max s = .ok c :=
  exists_mem_of_mapM L.records ((L.mem_sets s).2 hs)

theorem map_itemIds (L : finder.Listing analysis) :
    analysis.clusters.map (·.itemIds) = L.sets.map finder.sortedIds :=
  map_of_mapM L.records fun _ _ hc => itemIds_of_clusterOf hc

theorem length_itemIds (L : finder.Listing analysis) (hc : c ∈ analysis.clusters) :
    c.itemIds.length = c.size := by
  obtain ⟨s, hs, hc⟩ := L.mem_clusters.1 hc
  rw [itemIds_of_clusterOf hc, size_of_clusterOf hc]
  exact hs.selection.length_sortedIds

theorem pairwise_before (L : finder.Listing analysis) :
    analysis.clusters.Pairwise fun c d => Before c.itemIds d.itemIds := by
  rw [← List.pairwise_map, L.map_itemIds, List.pairwise_map]
  exact L.ordered

end Listing

/-! ## A small catalog -/

/-- A garment of one colour. -/
def garment (id colour : String) : Item where
  id := ⟨id⟩
  name := id
  attributes := .ofList [("colour", .string colour)]

/-- The schema of garments. -/
def garments : Schema := ⟨"garments", "1", [⟨"colour", .string, true⟩], .reject, by decide⟩

/-- A white shirt with navy trousers and a navy coat.  Garments of different colours go together. -/
def wardrobe : ClusterFinder where
  catalog :=
    .holding "wardrobe" garments
      [garment "shirt" "white", garment "trousers" "navy", garment "coat" "navy"]
      (by decide +kernel) (by decide +kernel)
  matcher :=
    ⟨⟨"contrast", [⟨"colours", none, .leaf (.hasDifferent "colour")⟩], by decide⟩, garments,
      Clock.source ⟨0⟩, by decide +kernel⟩
  rules :=
    ⟨⟨"outfits", [⟨"colours", none, .leaf (.uniqueValues "colour")⟩], by decide⟩, none, none⟩
  config := { minSize := some 1 }
  schema_eq := rfl
  bound := by decide +kernel

/-- The shirt goes with the trousers and with the coat. -/
def contrasts : Graph := .ofEdges 3 [(0, 1), (0, 2)]

theorem exists_analysis_wardrobe : ∃ analysis, wardrobe.analyze = .ok analysis := by
  have hgraph : wardrobe.graph = .ok contrasts := rfl
  have hsearch : ((wardrobe.search contrasts 1 3 .never).run.run' 0).toOption.map
      (·.found.all fun s => (wardrobe.clusterOf contrasts 3 s).toOption.isSome) = some true := by
    decide +kernel
  obtain ⟨result, hresult, hall⟩ := Option.map_eq_some_iff.1 hsearch
  have hrecords : ∀ s ∈ wardrobe.sortSets result.found,
      ∃ c, wardrobe.clusterOf contrasts 3 s = .ok c := by
    intro s hs
    have hsome := List.all_eq_true.1 hall s ((wardrobe.sortSets_perm _).subset hs)
    obtain ⟨c, hc⟩ := Option.isSome_iff_exists.1 hsome
    exact ⟨c, toOption_eq_some_iff.1 hc⟩
  obtain ⟨clusters, hclusters⟩ := exists_mapM hrecords
  exact ⟨_, (analyzeWith_eq_ok_iff_of_uncapped rfl).2
    ⟨1, 3, _, result, clusters, rfl, hgraph, toOption_eq_some_iff.1 hresult, hclusters, rfl⟩⟩

end ClusterFinder

end Ensemble
