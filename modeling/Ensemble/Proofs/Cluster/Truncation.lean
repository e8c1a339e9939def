import Ensemble.Proofs.Cluster.Records
import Ensemble.Proofs.Cluster.Report
import Ensemble.Proofs.Cluster.Safety

/-!
# Analyses that are cut off

A search config may ask for a number of clusters.  Such an analysis reports the first clusters of
the whole one, each with the same record.  What it says beyond the records is about the reported
clusters alone.
-/

namespace Ensemble

/-! ## First elements -/

section

variable {α : Type} {k n : Nat}

theorem pairsOf_filter (p : α → Bool) (xs : List α) :
    pairsOf (xs.filter p) = (pairsOf xs).filter fun q => p q.1 && p q.2 := by
  induction xs with
  | nil => rfl
  | cons x xs ih =>
    rw [pairsOf_cons, List.filter_append, List.filter_map, ← ih, List.filter_cons]
    by_cases hx : p x = true
    · rw [if_pos hx, pairsOf_cons]
      simp [Function.comp_def, hx]
    · rw [if_neg hx]
      simp [Function.comp_def, hx]

/-- The first elements are those at the first positions. -/
theorem zipIdx_take_eq_filter (xs : List α) :
    (xs.take k).zipIdx n = (xs.zipIdx n).filter fun p => decide (p.2 < n + k) := by
  induction xs generalizing k n with
  | nil => simp
  | cons x xs ih =>
    cases k with
    | zero =>
      symm
      rw [List.take_zero, List.zipIdx_nil, List.filter_eq_nil_iff]
      rintro ⟨y, i⟩ hp
      have hle := List.le_snd_of_mem_zipIdx hp
      rw [decide_eq_true_iff]
      omega
    | succ k =>
      rw [List.take_succ_cons, List.zipIdx_cons, List.zipIdx_cons, ih, List.filter_cons,
        if_pos (decide_eq_true (by omega))]
      simp only [Nat.add_right_comm, Nat.add_assoc]

end

/-- The relationships of the first clusters are the ones at the first positions. -/
theorem Relationship.among_take (ids : List (List ItemId)) (k : Nat) :
    among (ids.take k) = (among ids).filter fun r => r.cluster < k && r.related < k := by
  unfold among
  rw [zipIdx_take_eq_filter, pairsOf_filter, List.filterMap_filter, List.filter_filterMap]
  refine List.filterMap_congr ?_
  rintro ⟨a, b⟩ -
  cases hr : ofIds? a b with
  | none => simp [hr]
  | some r =>
    obtain ⟨ha, hb⟩ := positions_of_ofIds? hr
    simp [hr, ha, hb, Option.filter]

/-! ## Analyses -/

/-- An analysis reports the first `k` clusters of a full one. -/
structure ClusterAnalysis.CutsTo (full : ClusterAnalysis) (k : Nat) (part : ClusterAnalysis) :
    Prop where
  names : part.catalog = full.catalog ∧ part.pairRules = full.pairRules ∧
    part.clusterRules = full.clusterRules
  clusters : part.clusters = full.clusters.take k
  relationships : part.relationships = full.relationships.filter fun r =>
    r.cluster < k && r.related < k
  truncated : part.truncated = decide (full.totals.clusters > k)
  count : part.totals.clusters = part.clusters.length
  maxSize : part.totals.maxSize = (part.clusters.map (·.size)).max?.getD 0
  covered : part.totals.covered = (part.clusters.flatMap (·.itemIds)).dedup.length
  cancelled : part.cancelled = full.cancelled

namespace ClusterFinder

/-- A copy that reports at most so many clusters. -/
def withCap (finder : ClusterFinder) (cap : Option Nat) : ClusterFinder :=
  { finder with config := { finder.config with maxClusters := cap } }

theorem isMaximal_go_withCap (finder : ClusterFinder) (cap : Option Nat) (s : IndexSet)
    (is : List Nat) : isMaximal.go (finder.withCap cap) s is = isMaximal.go finder s is := by
  induction is with
  | nil => rfl
  | cons i is ih =>
    rw [isMaximal.go, isMaximal.go, ih]
    rfl

/-- The record of a set has nothing to do with how many clusters are reported. -/
theorem clusterOf_withCap (finder : ClusterFinder) (cap : Option Nat) (g : Graph) (max : Nat) :
    (finder.withCap cap).clusterOf g max = finder.clusterOf g max := by
  funext s
  unfold clusterOf isMaximal
  rw [isMaximal_go_withCap]
  rfl

theorem analyzeWith_of_bounds_error {finder : ClusterFinder} {e : Error}
    (h : finder.sizeBounds = .error e) (cancel : Cancellation) :
    finder.analyzeWith cancel = .error e := by
  unfold analyzeWith
  rw [h]
  rfl

theorem analyzeWith_of_search_error {finder : ClusterFinder} {cancel : Cancellation}
    {min max : Nat} {g : Graph} {e : Error} (hbounds : finder.sizeBounds = .ok (min, max))
    (hgraph : finder.graph = .ok g)
    (h : (finder.search g min max cancel).run.run' 0 = .error e) :
    finder.analyzeWith cancel = .error e := by
  unfold analyzeWith
  simp only [hbounds, hgraph, h, ok_bind, error_bind]

theorem maxSize_of_analyzeWith {finder : ClusterFinder} {cancel : Cancellation}
    {analysis : ClusterAnalysis} (h : finder.analyzeWith cancel = .ok analysis) :
    analysis.totals.maxSize = (analysis.clusters.map (·.size)).max?.getD 0 := by
  obtain ⟨-, htotals, hsizes⟩ := report_of_analyzeWith h
  rw [htotals, ClusterTotals.ofIds, List.map_map, List.map_congr_left hsizes]
  rfl

theorem covered_of_analyzeWith {finder : ClusterFinder} {cancel : Cancellation}
    {analysis : ClusterAnalysis} (h : finder.analyzeWith cancel = .ok analysis) :
    analysis.totals.covered = (analysis.clusters.flatMap (·.itemIds)).dedup.length := by
  rw [(report_of_analyzeWith h).2.1, ClusterTotals.ofIds, List.flatMap_def]

theorem count_of_analyzeWith {finder : ClusterFinder} {cancel : Cancellation}
    {analysis : ClusterAnalysis} (h : finder.analyzeWith cancel = .ok analysis) :
    analysis.totals.clusters = analysis.clusters.length := by
  rw [(report_of_analyzeWith h).2.1, ClusterTotals.ofIds, List.length_map]

/-- The cap plays no part before the sets are sorted, and the sorted sets have records.  So either
there is no analysis whatever the cap is, or every cap cuts off the full one. -/
theorem error_or_cutsTo (finder : ClusterFinder) :
    (∃ e, ∀ cap, (finder.withCap cap).analyze = .error e) ∨
    ∃ full, (finder.withCap none).analyze = .ok full ∧
      ∀ k, ∃ part, (finder.withCap (some k)).analyze = .ok part ∧ full.CutsTo k part := by
  cases hbounds : finder.sizeBounds with
  | error e =>
    refine .inl ⟨e, fun cap => ?_⟩
    have hbounds : (finder.withCap cap).sizeBounds = .error e := hbounds
    exact analyzeWith_of_bounds_error hbounds _
  | ok bounds =>
    obtain ⟨min, max⟩ := bounds
    obtain ⟨g, hgraph⟩ := finder.exists_graph
    cases hsearch : (finder.search g min max .never).run.run' 0 with
    | error e =>
      refine .inl ⟨e, fun cap => ?_⟩
      have hbounds : (finder.withCap cap).sizeBounds = .ok (min, max) := hbounds
      have hgraph : (finder.withCap cap).graph = .ok g := hgraph
      exact analyzeWith_of_search_error hbounds hgraph hsearch
    | ok result =>
      obtain ⟨clusters, hclusters⟩ :=
        exists_records (depicts_of_graph hgraph) (one_le_of_sizeBounds hbounds) hsearch
      have hrecords : ∀ cap, (finder.sortSets result.found).mapM
          ((finder.withCap cap).clusterOf g max) = .ok clusters :=
        fun cap => by rw [clusterOf_withCap, hclusters]
      have hfull : (finder.withCap none).analyze = .ok _ := analyzeWith_eq_ok_iff.2
        ⟨min, max, g, result, clusters, hbounds, hgraph, hsearch, hrecords none, rfl⟩
      refine .inr ⟨_, hfull, fun k => ?_⟩
      have hpart : (finder.withCap (some k)).analyze = .ok _ := analyzeWith_eq_ok_iff.2
        ⟨min, max, g, result, clusters.take k, hbounds, hgraph, hsearch,
          mapM_take (hrecords (some k)) k, rfl⟩
      refine ⟨_, hpart, ?_⟩
      exact {
        names := ⟨rfl, rfl, rfl⟩
        clusters := rfl
        relationships := by
          rw [(report_of_analyzeWith hpart).1, (report_of_analyzeWith hfull).1,
            ← Relationship.among_take, ← List.map_take]
        truncated := rfl
        count := count_of_analyzeWith hpart
        maxSize := maxSize_of_analyzeWith hpart
        covered := covered_of_analyzeWith hpart
        cancelled := rfl }

/-- Asking for `k` clusters fails as asking for all of them does, and otherwise reports the first
`k` clusters of the full analysis, with their records. -/
theorem truncation_keeps_first (finder : ClusterFinder) (k : Nat) :
    (∃ e, (finder.withCap none).analyze = .error e ∧
      (finder.withCap (some k)).analyze = .error e) ∨
    ∃ full part, (finder.withCap none).analyze = .ok full ∧
      (finder.withCap (some k)).analyze = .ok part ∧ full.CutsTo k part := by
  rcases finder.error_or_cutsTo with ⟨e, herror⟩ | ⟨full, hfull, hcuts⟩
  · exact .inl ⟨e, herror none, herror (some k)⟩
  · obtain ⟨part, hpart, hcut⟩ := hcuts k
    exact .inr ⟨full, part, hfull, hpart, hcut⟩

end ClusterFinder

end Ensemble
