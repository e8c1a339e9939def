import Ensemble.Proofs.Cluster.Report
import Mathlib.Data.Finset.Card

/-!
# Relationships between reported clusters

How one cluster lies to another is told from their sizes and the number of shared items alone.  The
clusters of an analysis differ and come by falling size, complete or not, so this says exactly which
of them are properly contained in which.
-/

namespace Ensemble

/-- The ids of a cluster as a set. -/
def Cluster.ids (cluster : Cluster) : Finset ItemId := cluster.itemIds.toFinset

/-! ## Kinds -/

namespace RelationshipKind

variable {α : Type} [DecidableEq α] {s t : Finset α}

theorem ofSizes_of_ssubset (h : t ⊂ s) : ofSizes s.card t.card (s ∩ t).card = .superset := by
  have hlt := Finset.card_lt_card h
  rw [Finset.inter_eq_right.2 h.subset, ofSizes, if_neg (by omega), if_pos ⟨rfl, hlt⟩]

theorem ofSizes_of_not_subset (hcard : t.card ≤ s.card) (h : ¬ t ⊆ s) :
    ofSizes s.card t.card (s ∩ t).card = .overlap := by
  have hshared : (s ∩ t).card ≠ t.card := fun heq =>
    h (Finset.inter_eq_right.1 (Finset.eq_of_subset_of_card_le Finset.inter_subset_right heq.ge))
  rw [ofSizes, if_neg (by omega), if_neg (by simp [hshared])]

end RelationshipKind

/-! ## Records -/

namespace Relationship

variable {as bs : List ItemId} {ids : List (List ItemId)} {r : Relationship} {i j : Nat}

/-- The record says how two clusters lie to each other, the first of which is the earlier one. -/
structure Describes (r : Relationship) (a b : Cluster) : Prop where
  shared : r.shared = (a.ids ∩ b.ids).card
  not_subset : r.kind ≠ .subset
  superset_iff : r.kind = .superset ↔ b.ids ⊂ a.ids
  overlap_iff : r.kind = .overlap ↔ ¬ b.ids ⊂ a.ids
  incomparable : r.kind = .overlap → ¬ a.ids ⊆ b.ids ∧ ¬ b.ids ⊆ a.ids

/-- The earlier set is never contained in the later one, which is no larger and another one. -/
theorem describes_of_card_le {a b : Cluster} (hcard : b.ids.card ≤ a.ids.card)
    (hne : a.ids ≠ b.ids) :
    Describes ⟨i, j, .ofSizes a.ids.card b.ids.card (a.ids ∩ b.ids).card,
      (a.ids ∩ b.ids).card⟩ a b := by
  have hnot : ¬ a.ids ⊆ b.ids := fun h => hne (Finset.eq_of_subset_of_card_le h hcard)
  by_cases h : b.ids ⊂ a.ids
  · rw [RelationshipKind.ofSizes_of_ssubset h]
    exact ⟨rfl, nofun, iff_of_true rfl h, iff_of_false nofun (not_not_intro h), nofun⟩
  · have hsub : ¬ b.ids ⊆ a.ids := fun hle => h ⟨hle, hnot⟩
    rw [RelationshipKind.ofSizes_of_not_subset hcard hsub]
    exact ⟨rfl, nofun, iff_of_false nofun h, iff_of_true rfl h, fun _ => ⟨hnot, hsub⟩⟩

theorem length_filter_mem (has : as.Nodup) :
    (as.filter (· ∈ bs)).length = (as.toFinset ∩ bs.toFinset).card := by
  rw [← List.toFinset_card_of_nodup (has.filter _), List.toFinset_filter,
    ← Finset.filter_mem_eq_inter]
  simp only [decide_eq_true_eq, List.mem_toFinset]

/-- Without repetitions, a record says how many ids there are and how many are shared. -/
theorem ofIds?_eq_some_iff (has : as.Nodup) (hbs : bs.Nodup) :
    ofIds? (as, i) (bs, j) = some r ↔
      (as.toFinset ∩ bs.toFinset).Nonempty ∧
        r = ⟨i, j, .ofSizes as.toFinset.card bs.toFinset.card (as.toFinset ∩ bs.toFinset).card,
          (as.toFinset ∩ bs.toFinset).card⟩ := by
  unfold ofIds?
  dsimp only
  rw [length_filter_mem has, List.toFinset_card_of_nodup has, List.toFinset_card_of_nodup hbs,
    Option.ite_none_left_eq_some, Option.some.injEq, Finset.card_eq_zero,
    Finset.nonempty_iff_ne_empty, eq_comm (b := r)]

theorem mem_among_iff :
    r ∈ among ids ↔ ∃ as bs, r.cluster < r.related ∧ ids[r.cluster]? = some as ∧
      ids[r.related]? = some bs ∧ ofIds? (as, r.cluster) (bs, r.related) = some r := by
  unfold among
  rw [List.mem_filterMap]
  constructor
  · rintro ⟨⟨⟨as, i⟩, ⟨bs, j⟩⟩, hp, hr⟩
    obtain ⟨hlt, has, hbs⟩ := mem_pairsOf_zipIdx.1 hp
    obtain ⟨rfl, rfl⟩ := positions_of_ofIds? hr
    exact ⟨as, bs, hlt, has, hbs, hr⟩
  · rintro ⟨as, bs, hlt, has, hbs, hr⟩
    exact ⟨((as, r.cluster), (bs, r.related)), mem_pairsOf_zipIdx.2 ⟨hlt, has, hbs⟩, hr⟩

/-- The records come in the lexicographic order of their positions, so no pair has two of them. -/
theorem pairwise_among (ids : List (List ItemId)) :
    (among ids).Pairwise fun r t =>
      Prod.Lex (· < ·) (· < ·) (r.cluster, r.related) (t.cluster, t.related) := by
  have hpositions := pairwise_positionPairs ids.length
  rw [← positions_pairsOf_zipIdx, List.pairwise_map] at hpositions
  unfold among
  rw [List.pairwise_filterMap]
  refine hpositions.imp ?_
  rintro ⟨a, b⟩ ⟨c, d⟩ hlex r hr t ht
  obtain ⟨hrcluster, hrrelated⟩ := positions_of_ofIds? hr
  obtain ⟨htcluster, htrelated⟩ := positions_of_ofIds? ht
  rw [hrcluster, hrrelated, htcluster, htrelated]
  exact hlex

end Relationship

/-! ## Analyses -/

/-- The relationships of an analysis are those of its clusters: one record for each two that share
an item, the earlier one first. -/
structure ClusterAnalysis.RelatesExactly (analysis : ClusterAnalysis) : Prop where
  ordered : analysis.relationships.Pairwise fun r t =>
    Prod.Lex (· < ·) (· < ·) (r.cluster, r.related) (t.cluster, t.related)
  related_iff : ∀ i j, (∃ r ∈ analysis.relationships, r.cluster = i ∧ r.related = j) ↔
    ∃ a b, i < j ∧ analysis.clusters[i]? = some a ∧ analysis.clusters[j]? = some b ∧
      (a.ids ∩ b.ids).Nonempty
  describes : ∀ r ∈ analysis.relationships, ∀ a b, analysis.clusters[r.cluster]? = some a →
    analysis.clusters[r.related]? = some b → r.Describes a b

namespace ClusterFinder

variable {finder : ClusterFinder} {cancel : Cancellation} {analysis : ClusterAnalysis}

/-- Whether an analysis is complete or not, the ids of a cluster ascend, and the clusters come in a
strict order. -/
theorem before_of_analyzeWith (h : finder.analyzeWith cancel = .ok analysis) :
    (∀ c ∈ analysis.clusters, ItemId.Ascending c.itemIds) ∧
      analysis.clusters.Pairwise fun c d => Before c.itemIds d.itemIds := by
  obtain ⟨min, max, g, result, clusters, -, hgraph, hresult, hclusters, rfl⟩ :=
    analyzeWith_eq_ok_iff.1 h
  have hsel : ∀ s ∈ result.found, finder.Selection s := fun s hs =>
    (selection_of_mem_found (depicts_of_graph hgraph).size hresult hs).1
  have hnodup : result.found.Nodup := by
    rw [(result_of_search hresult).1]
    exact (Search.nodup_allNodes.sublist (cancel.reached_sublist ..)).filter _
  have hids : clusters.map (·.itemIds)
      = (finder.kept (finder.sortSets result.found)).map finder.sortedIds :=
    map_of_mapM hclusters fun _ _ hc => itemIds_of_clusterOf hc
  constructor
  · intro c hc
    obtain ⟨s, hs, hc⟩ := (mem_of_mapM hclusters).1 hc
    rw [itemIds_of_clusterOf hc]
    have hfound := (finder.sortSets_perm _).subset ((finder.kept_sublist _).subset hs)
    exact (hsel s hfound).ascending_sortedIds
  · have hbefore := (before_sortSets hnodup hsel).sublist (finder.kept_sublist _)
    rw [← List.pairwise_map, hids, List.pairwise_map]
    exact hbefore

/-- A cluster is at least as large as a later one, and has other ids. -/
theorem card_le_of_before {as bs : List ItemId} (has : ItemId.Ascending as)
    (hbs : ItemId.Ascending bs) (h : Before as bs) :
    bs.toFinset.card ≤ as.toFinset.card ∧ as.toFinset ≠ bs.toFinset := by
  rw [List.toFinset_card_of_nodup has.nodup, List.toFinset_card_of_nodup hbs.nodup]
  constructor
  · rcases h with h | ⟨h, -⟩ <;> omega
  · intro heq
    refine h.ne (has.eq_of_mem_iff hbs fun id => ?_)
    rw [← List.mem_toFinset, ← List.mem_toFinset, heq]

/-- Every analysis, also one that was stopped or cut off, relates exactly those of its clusters that
share an item, and says which of them properly contain later ones.  No cluster is contained in a
later one. -/
theorem relationships_exact (h : finder.analyzeWith cancel = .ok analysis) :
    analysis.RelatesExactly := by
  obtain ⟨hrelationships, -, -⟩ := report_of_analyzeWith h
  obtain ⟨hascending, hbefore⟩ := before_of_analyzeWith h
  -- A record is made from the ids of the clusters at its positions.
  have hmem : ∀ r, r ∈ analysis.relationships ↔ ∃ a b, r.cluster < r.related ∧
      analysis.clusters[r.cluster]? = some a ∧ analysis.clusters[r.related]? = some b ∧
      (a.ids ∩ b.ids).Nonempty ∧ r = ⟨r.cluster, r.related,
        .ofSizes a.ids.card b.ids.card (a.ids ∩ b.ids).card, (a.ids ∩ b.ids).card⟩ := by
    intro r
    rw [hrelationships, Relationship.mem_among_iff]
    simp only [List.getElem?_map, Option.map_eq_some_iff]
    constructor
    · rintro ⟨_, _, hlt, ⟨a, ha, rfl⟩, ⟨b, hb, rfl⟩, hr⟩
      have hnodup := (hascending a (List.mem_of_getElem? ha)).nodup
      have hnodup' := (hascending b (List.mem_of_getElem? hb)).nodup
      exact ⟨a, b, hlt, ha, hb, (Relationship.ofIds?_eq_some_iff hnodup hnodup').1 hr⟩
    · rintro ⟨a, b, hlt, ha, hb, hr⟩
      have hnodup := (hascending a (List.mem_of_getElem? ha)).nodup
      have hnodup' := (hascending b (List.mem_of_getElem? hb)).nodup
      exact ⟨_, _, hlt, ⟨a, ha, rfl⟩, ⟨b, hb, rfl⟩,
        (Relationship.ofIds?_eq_some_iff hnodup hnodup').2 hr⟩
  refine ⟨hrelationships ▸ Relationship.pairwise_among _, fun i j => ⟨?_, ?_⟩, ?_⟩
  · rintro ⟨r, hr, rfl, rfl⟩
    obtain ⟨a, b, hlt, ha, hb, hshared, -⟩ := (hmem r).1 hr
    exact ⟨a, b, hlt, ha, hb, hshared⟩
  · rintro ⟨a, b, hlt, ha, hb, hshared⟩
    exact ⟨⟨i, j, _, _⟩, (hmem _).2 ⟨a, b, hlt, ha, hb, hshared, rfl⟩, rfl, rfl⟩
  · intro r hr a b ha hb
    obtain ⟨a', b', hlt, ha', hb', -, heq⟩ := (hmem r).1 hr
    obtain rfl := Option.some.inj (ha'.symm.trans ha)
    obtain rfl := Option.some.inj (hb'.symm.trans hb)
    have hpair : Before a'.itemIds b'.itemIds := by
      obtain ⟨hi, rfl⟩ := List.getElem?_eq_some_iff.1 ha'
      obtain ⟨hj, rfl⟩ := List.getElem?_eq_some_iff.1 hb'
      exact List.pairwise_iff_getElem.1 hbefore _ _ hi hj hlt
    obtain ⟨hcard, hne⟩ := card_le_of_before (hascending a' (List.mem_of_getElem? ha'))
      (hascending b' (List.mem_of_getElem? hb')) hpair
    rw [heq]
    exact Relationship.describes_of_card_le hcard hne

theorem relationships_exact_wardrobe :
    ∃ analysis, wardrobe.analyze = .ok analysis ∧ analysis.RelatesExactly := by
  obtain ⟨analysis, h⟩ := exists_analysis_wardrobe
  exact ⟨analysis, h, relationships_exact h⟩

end ClusterFinder

end Ensemble
