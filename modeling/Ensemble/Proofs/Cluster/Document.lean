import Ensemble.Proofs.Cluster.Relationships
import Ensemble.Proofs.Pairing.Document
import Ensemble.Proofs.Pairing.Failures
import Mathlib.Algebra.BigOperators.Group.List.Basic
import Mathlib.Algebra.Order.BigOperators.Group.List
import Mathlib.Data.Finset.Powerset

/-!
# Analyses in documents

An analysis is printed as a document that is read as the same analysis again, if its counts are
words of 64 bits and its mean is finite.  The ids that it lists bound everything that it counts, as
each cluster has at least one of them.
-/

namespace Ensemble

/-! ## Lists of ids -/

theorem length_le_length_flatten {ids : List (List ItemId)} (h : ∀ as ∈ ids, as ≠ []) :
    ids.length ≤ ids.flatten.length := by
  rw [List.length_flatten, ← List.length_map List.length]
  refine List.length_le_sum_of_one_le _ fun n hn => ?_
  obtain ⟨as, has, rfl⟩ := List.mem_map.1 hn
  exact List.length_pos_iff.2 (h as has)

theorem length_le_length_flatten_of_mem {ids : List (List ItemId)} {as : List ItemId}
    (h : as ∈ ids) : as.length ≤ ids.flatten.length := by
  rw [List.length_flatten]
  exact List.le_sum_of_mem (List.mem_map_of_mem h)

/-! ## Relationships -/

theorem RelationshipKind.ofName?_name (k : RelationshipKind) : ofName? k.name = some k := by
  cases k <;> rfl

namespace Relationship

/-- The counts of a relationship can be read. -/
structure Countable (r : Relationship) : Prop where
  cluster : r.cluster < UInt64.size
  related : r.related < UInt64.size
  shared : r.shared < UInt64.size

theorem Countable.ofDocument_toDocument {r : Relationship} (h : r.Countable) :
    ofDocument r.toDocument = .ok r := by
  have hcluster : Field.cluster.read (.ofNat r.cluster) = .ok r.cluster :=
    Document.toCount_ofNat h.cluster
  have hrelated : Field.related.read (.ofNat r.related) = .ok r.related :=
    Document.toCount_ofNat h.related
  have hkind : Field.kind.read (.text r.kind.name) = .ok r.kind :=
    Document.toVariant_text r.kind.ofName?_name
  have hshared : Field.shared.read (.ofNat r.shared) = .ok r.shared :=
    Document.toCount_ofNat h.shared
  obtain ⟨fields, hread, hcells⟩ := Record.exists_read_cells .ignored
    [⟨Field.cluster, r.cluster, .ofNat r.cluster, hcluster⟩,
     ⟨Field.related, r.related, .ofNat r.related, hrelated⟩,
     ⟨Field.kind, r.kind, .text r.kind.name, hkind⟩,
     ⟨Field.shared, r.shared, .ofNat r.shared, hshared⟩]
    (show ["cluster_id", "related_cluster_id", "relationship_type", "overlap_size"].Nodup by decide)
  simp only [List.forall_mem_cons] at hcells
  obtain ⟨hcluster, hrelated, hkind, hshared, -⟩ := hcells
  refine bind_eq_ok_iff.2 ⟨fields, hread, ?_⟩
  simp only [hcluster, hrelated, hkind, hshared, ok_bind, pure_eq_ok]

theorem countable_of_mem_among {ids : List (List ItemId)} {r : Relationship}
    (hr : r ∈ among ids) (h : ∀ as ∈ ids, as ≠ []) (hflatten : ids.flatten.length < UInt64.size) :
    r.Countable := by
  obtain ⟨as, bs, hlt, has, hbs, hr⟩ := mem_among_iff.1 hr
  have hids : ids.length < UInt64.size :=
    (length_le_length_flatten h).trans_lt hflatten
  obtain ⟨hrelated, -⟩ := List.getElem?_eq_some_iff.1 hbs
  refine ⟨by omega, by omega, ?_⟩
  have hshared : r.shared ≤ as.length := by
    unfold ofIds? at hr
    dsimp only at hr
    split at hr
    · cases hr
    · rw [← Option.some.inj hr]
      exact List.length_filter_le ..
  have hlength := length_le_length_flatten_of_mem (List.mem_of_getElem? has)
  omega

end Relationship

/-! ## Clusters -/

theorem Cluster.ofDocument_toDocument {c : Cluster} (hsize : c.size < UInt64.size) :
    ofDocument c.toDocument = .ok c := by
  have hids : Field.itemIds.read (.array (c.itemIds.map ItemId.toDocument)) = .ok c.itemIds :=
    Document.toList_map fun id _ => id.ofDocument_toDocument
  have hsize : Field.size.read (.ofNat c.size) = .ok c.size := Document.toCount_ofNat hsize
  have hevaluations : Field.evaluations.read (.array (c.evaluations.map RuleEvaluation.toDocument))
      = .ok c.evaluations := Document.toList_map fun e _ => e.ofDocument_toDocument
  obtain ⟨fields, hread, hcells⟩ := Record.exists_read_cells .ignored
    [⟨Field.itemIds, c.itemIds, .array (c.itemIds.map ItemId.toDocument), hids⟩,
     ⟨Field.size, c.size, .ofNat c.size, hsize⟩,
     ⟨Field.evaluations, c.evaluations, .array (c.evaluations.map RuleEvaluation.toDocument),
      hevaluations⟩,
     ⟨Field.isValid, c.isValid, .bool c.isValid, rfl⟩,
     ⟨Field.isMaximum, c.isMaximum, .bool c.isMaximum, rfl⟩]
    (show ["item_ids", "size", "rule_evaluations", "is_valid", "is_maximum"].Nodup by decide)
  simp only [List.forall_mem_cons] at hcells
  obtain ⟨hids, hsize, hevaluations, hvalid, hmaximum, -⟩ := hcells
  refine bind_eq_ok_iff.2 ⟨fields, hread, ?_⟩
  simp only [hids, hsize, hevaluations, hvalid, hmaximum, ok_bind, pure_eq_ok]

/-! ## Totals -/

namespace ClusterTotals

variable {ids : List (List ItemId)}

/-- Totals whose counts can be read, and whose mean can be written. -/
structure Countable (t : ClusterTotals) : Prop where
  clusters : t.clusters < UInt64.size
  maxSize : t.maxSize < UInt64.size
  meanSize : t.meanSize.isFinite = true
  covered : t.covered < UInt64.size

theorem maxSize_ofIds_le : (ofIds ids).maxSize ≤ ids.flatten.length := by
  show (ids.map List.length).max?.getD 0 ≤ _
  cases hmax : (ids.map List.length).max? with
  | none => exact Nat.zero_le _
  | some n =>
    obtain ⟨as, has, rfl⟩ := List.mem_map.1 (List.max?_mem hmax)
    exact length_le_length_flatten_of_mem has

theorem isFinite_meanSize_ofIds (hids : ids.length < UInt64.size)
    (hflatten : ids.flatten.length < UInt64.size) : (ofIds ids).meanSize.isFinite = true := by
  unfold ofIds
  dsimp only
  rw [← List.sum_eq_foldl, ← List.length_flatten]
  exact isFinite_quotient hflatten hids List.isEmpty_iff_length_eq_zero.2

theorem countable_ofIds (h : ∀ as ∈ ids, as ≠ []) (hflatten : ids.flatten.length < UInt64.size) :
    (ofIds ids).Countable where
  clusters := (length_le_length_flatten h).trans_lt hflatten
  maxSize := maxSize_ofIds_le.trans_lt hflatten
  meanSize := isFinite_meanSize_ofIds ((length_le_length_flatten h).trans_lt hflatten) hflatten
  covered := (List.dedup_sublist _).length_le.trans_lt hflatten

end ClusterTotals

/-! ## Analyses -/

namespace ClusterAnalysis

/-- The number of ids that an analysis lists. -/
def idCount (analysis : ClusterAnalysis) : Nat :=
  (analysis.clusters.map (·.itemIds.length)).sum

theorem length_flatten_itemIds (analysis : ClusterAnalysis) :
    (analysis.clusters.map (·.itemIds)).flatten.length = analysis.idCount := by
  rw [List.length_flatten, List.map_map]
  rfl

/-- An analysis whose counts can be read, and whose mean can be written. -/
structure Countable (analysis : ClusterAnalysis) : Prop where
  clusters : ∀ c ∈ analysis.clusters, c.size < UInt64.size
  relationships : ∀ r ∈ analysis.relationships, r.Countable
  totals : analysis.totals.Countable

theorem Countable.ofDocument_toDocument {analysis : ClusterAnalysis} (h : analysis.Countable) :
    ofDocument analysis.toDocument = .ok analysis := by
  have hclusters : Field.clusters.read (.array (analysis.clusters.map Cluster.toDocument))
      = .ok analysis.clusters :=
    Document.toList_map fun c hc => Cluster.ofDocument_toDocument (h.clusters c hc)
  have hrelationships :
      Field.relationships.read (.array (analysis.relationships.map Relationship.toDocument))
      = .ok analysis.relationships :=
    Document.toList_map fun r hr => (h.relationships r hr).ofDocument_toDocument
  have htotal : Field.total.read (.ofNat analysis.totals.clusters) = .ok analysis.totals.clusters :=
    Document.toCount_ofNat h.totals.clusters
  have hmax : Field.maxSize.read (.ofNat analysis.totals.maxSize) = .ok analysis.totals.maxSize :=
    Document.toCount_ofNat h.totals.maxSize
  have hmean : Field.meanSize.read (.ofFloat analysis.totals.meanSize)
      = .ok analysis.totals.meanSize := Document.toNumber_ofFloat h.totals.meanSize
  have hcovered : Field.covered.read (.ofNat analysis.totals.covered)
      = .ok analysis.totals.covered := Document.toCount_ofNat h.totals.covered
  obtain ⟨fields, hread, hcells⟩ := Record.exists_read_cells .ignored
    [⟨Field.catalog, analysis.catalog, .text analysis.catalog, rfl⟩,
     ⟨Field.pairRules, analysis.pairRules, .text analysis.pairRules, rfl⟩,
     ⟨Field.clusterRules, analysis.clusterRules, .text analysis.clusterRules, rfl⟩,
     ⟨Field.clusters, analysis.clusters, .array (analysis.clusters.map Cluster.toDocument),
      hclusters⟩,
     ⟨Field.relationships, analysis.relationships,
      .array (analysis.relationships.map Relationship.toDocument), hrelationships⟩,
     ⟨Field.total, analysis.totals.clusters, .ofNat analysis.totals.clusters, htotal⟩,
     ⟨Field.maxSize, analysis.totals.maxSize, .ofNat analysis.totals.maxSize, hmax⟩,
     ⟨Field.meanSize, analysis.totals.meanSize, .ofFloat analysis.totals.meanSize, hmean⟩,
     ⟨Field.covered, analysis.totals.covered, .ofNat analysis.totals.covered, hcovered⟩,
     ⟨Field.truncated, analysis.truncated, .bool analysis.truncated, rfl⟩,
     ⟨Field.cancelled, analysis.cancelled, .bool analysis.cancelled, rfl⟩]
    (show ["catalog", "ruleset", "cluster_ruleset", "clusters", "relationships", "total_clusters",
      "max_cluster_size", "avg_cluster_size", "total_items_covered", "truncated",
      "cancelled"].Nodup by decide)
  simp only [List.forall_mem_cons] at hcells
  obtain ⟨hcatalog, hpairs, hrules, hclusters, hrelationships, htotal, hmax, hmean, hcovered,
    htruncated, hcancelled, -⟩ := hcells
  refine bind_eq_ok_iff.2 ⟨fields, hread, ?_⟩
  simp only [hcatalog, hpairs, hrules, hclusters, hrelationships, htotal, hmax, hmean, hcovered,
    htruncated, hcancelled, ok_bind, pure_eq_ok]

end ClusterAnalysis

namespace ClusterFinder

variable {finder : ClusterFinder} {cancel : Cancellation} {analysis : ClusterAnalysis}

/-- A cluster has an id, and all its ids are those of items. -/
theorem itemIds_of_analyzeWith (h : finder.analyzeWith cancel = .ok analysis) :
    ∀ c ∈ analysis.clusters, c.itemIds ≠ [] ∧
      c.itemIds ⊆ finder.catalog.items.map (·.id) := by
  obtain ⟨min, max, g, result, clusters, -, hgraph, hresult, hclusters, rfl⟩ :=
    analyzeWith_eq_ok_iff.1 h
  intro c hc
  obtain ⟨s, hs, hc⟩ := (mem_of_mapM hclusters).1 hc
  have hfound := (finder.sortSets_perm _).subset ((finder.kept_sublist _).subset hs)
  obtain ⟨hsel, hne⟩ := selection_of_mem_found (depicts_of_graph hgraph).size hresult hfound
  rw [itemIds_of_clusterOf hc]
  constructor
  · rw [← List.length_pos_iff, hsel.length_sortedIds]
    exact List.length_pos_iff.2 hne
  · intro id hid
    rw [sortedIds, ItemId.mem_sorted] at hid
    exact (hsel.members_sublist.map _).subset hid

theorem countable_of_analyzeWith (h : finder.analyzeWith cancel = .ok analysis)
    (hcount : analysis.idCount < UInt64.size) : analysis.Countable := by
  obtain ⟨hrelationships, htotals, hsizes⟩ := report_of_analyzeWith h
  have hids : ∀ as ∈ analysis.clusters.map (·.itemIds), as ≠ [] := by
    intro as has
    obtain ⟨c, hc, rfl⟩ := List.mem_map.1 has
    exact (itemIds_of_analyzeWith h c hc).1
  rw [← analysis.length_flatten_itemIds] at hcount
  refine ⟨fun c hc => ?_, fun r hr => ?_, ?_⟩
  · rw [hsizes c hc]
    exact (length_le_length_flatten_of_mem (List.mem_map_of_mem hc)).trans_lt hcount
  · exact Relationship.countable_of_mem_among (hrelationships ▸ hr) hids hcount
  · rw [htotals]
    exact ClusterTotals.countable_ofIds hids hcount

/-- There are no more clusters than sets of items. -/
theorem length_clusters_le (h : finder.analyzeWith cancel = .ok analysis) :
    analysis.clusters.length ≤ 2 ^ finder.catalog.size := by
  obtain ⟨hascending, hbefore⟩ := before_of_analyzeWith h
  have hnodup : (analysis.clusters.map (·.ids)).Nodup := by
    refine List.pairwise_map.2 (hbefore.imp_of_mem fun {c d} hc hd hcd => ?_)
    exact (card_le_of_before (hascending c hc) (hascending d hd) hcd).2
  have hsub : (analysis.clusters.map (·.ids)).toFinset
      ⊆ (finder.catalog.items.map (·.id)).toFinset.powerset := by
    intro ids hids
    obtain ⟨c, hc, rfl⟩ := List.mem_map.1 (List.mem_toFinset.1 hids)
    refine Finset.mem_powerset.2 fun id hid => List.mem_toFinset.2 ?_
    exact (itemIds_of_analyzeWith h c hc).2 (List.mem_toFinset.1 hid)
  have hcard := Finset.card_le_card hsub
  rwa [List.toFinset_card_of_nodup hnodup, Finset.card_powerset,
    List.toFinset_card_of_nodup finder.catalog.distinct, List.length_map, List.length_map] at hcard

/-- Small catalogs have few ids to list, whatever their rules are. -/
theorem idCount_le (h : finder.analyzeWith cancel = .ok analysis) :
    analysis.idCount ≤ 2 ^ finder.catalog.size * finder.catalog.size := by
  have hle : ∀ n ∈ analysis.clusters.map (·.itemIds.length), n ≤ finder.catalog.size := by
    intro n hn
    obtain ⟨c, hc, rfl⟩ := List.mem_map.1 hn
    have hsubperm := ((before_of_analyzeWith h).1 c hc).nodup.subperm
      (itemIds_of_analyzeWith h c hc).2
    exact hsubperm.length_le.trans_eq (List.length_map _)
  calc analysis.idCount
      ≤ analysis.clusters.length * finder.catalog.size := by
        have hsum := List.sum_le_card_nsmul _ _ hle
        rwa [List.length_map] at hsum
    _ ≤ 2 ^ finder.catalog.size * finder.catalog.size :=
        Nat.mul_le_mul_right _ (length_clusters_le h)

end ClusterFinder

/-! ## Results of a catalog -/

/-- What is computed of a catalog is printed as a document that is read as the same result again,
and its rate or mean is finite, also where there are no pairs or no clusters.  Each result of a pair
keeps its time, whatever the readings show.  Lists are no longer than a word of 64 bits can say. -/
theorem results_roundTrip :
    (∀ (matcher : Matcher) (catalog : Catalog) (m : Matrix),
      matcher.matrix catalog = .ok m → m.results.length < UInt64.size →
        m.rate.isFinite = true ∧ Matrix.ofDocument m.toDocument = .ok m) ∧
    (∀ (matcher : Matcher) (catalog : Catalog),
      (matcher.partialMatrix catalog).matrix.results.length < UInt64.size →
        (matcher.partialMatrix catalog).matrix.rate.isFinite = true ∧
          Matrix.ofDocument (matcher.partialMatrix catalog).matrix.toDocument
            = .ok (matcher.partialMatrix catalog).matrix) ∧
    (∀ (finder : ClusterFinder) (cancel : Cancellation) (analysis : ClusterAnalysis),
      finder.analyzeWith cancel = .ok analysis → analysis.idCount < UInt64.size →
        analysis.totals.meanSize.isFinite = true ∧
          ClusterAnalysis.ofDocument analysis.toDocument = .ok analysis) := by
  refine ⟨fun matcher catalog m h hcount => ?_, fun matcher catalog hcount => ?_,
    fun finder cancel analysis h hcount => ?_⟩
  · obtain ⟨results, rfl⟩ := Matcher.exists_results_of_matrix h
    exact ⟨Matrix.isFinite_rate_ofResults hcount, Matrix.ofDocument_ofResults hcount⟩
  · exact ⟨Matrix.isFinite_rate_ofResults hcount, Matrix.ofDocument_ofResults hcount⟩
  · have hcountable := ClusterFinder.countable_of_analyzeWith h hcount
    exact ⟨hcountable.totals.meanSize, hcountable.ofDocument_toDocument⟩

open ClusterFinder

/-- The matcher of the wardrobe, with times that go up by one at each reading. -/
def ticking : Matcher :=
  wardrobe.matcher.withClock ⟨UInt64.ofNat, "counter"⟩

/-- The three pairs of the wardrobe are compared at three times. -/
theorem results_roundTrip_wardrobe :
    (∃ m, ticking.matrix wardrobe.catalog = .ok m ∧ m.results.map (·.timestamp) = [0, 1, 2] ∧
      m.rate.isFinite = true ∧ Matrix.ofDocument m.toDocument = .ok m) ∧
    Matrix.ofDocument (ticking.partialMatrix wardrobe.catalog).matrix.toDocument
      = .ok (ticking.partialMatrix wardrobe.catalog).matrix ∧
    ∃ analysis, wardrobe.analyze = .ok analysis ∧ analysis.totals.meanSize.isFinite = true ∧
      ClusterAnalysis.ofDocument analysis.toDocument = .ok analysis := by
  obtain ⟨hmatrix, hpartial, hanalysis⟩ := results_roundTrip
  refine ⟨?_, ?_, ?_⟩
  · have hlength : (ticking.matrix wardrobe.catalog).toOption.map (·.results.length) = some 3 := by
      decide +kernel
    obtain ⟨m, hm, hlength⟩ := Option.map_eq_some_iff.1 hlength
    have hm := toOption_eq_some_iff.1 hm
    have htimes : m.results.map (·.timestamp) = [0, 1, 2] := by
      rw [Matcher.timestamps_of_matrix hm, hlength]
      rfl
    obtain ⟨hrate, hread⟩ := hmatrix _ _ m hm (by rw [hlength]; decide)
    exact ⟨m, hm, htimes, hrate, hread⟩
  · have hlength : (ticking.partialMatrix wardrobe.catalog).matrix.results.length = 3 := by
      decide +kernel
    exact (hpartial _ _ (by rw [hlength]; decide)).2
  · obtain ⟨analysis, h⟩ := exists_analysis_wardrobe
    have hcount : analysis.idCount ≤ 2 ^ 3 * 3 := idCount_le h
    exact ⟨analysis, h, hanalysis _ _ analysis h (hcount.trans_lt (by decide))⟩

end Ensemble
