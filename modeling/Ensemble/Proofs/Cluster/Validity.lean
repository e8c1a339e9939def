import Ensemble.Proofs.Cluster.Listing
import Ensemble.Proofs.Rules
import Mathlib.Data.List.Pairwise

/-!
# Valid sets of items

A set of items, taken in catalog order, is valid if it has an allowed size, any two of its items are
compatible, and every cluster rule holds.  This says nothing about graphs or searches; an analysis
lists exactly the valid sets, each once.
-/

namespace Ensemble

namespace ClusterFinder

variable {finder : ClusterFinder} {g : Graph} {min max : Nat} {s : IndexSet} {S : List Item}
  {c : Cluster}

/-- A set of items that may be used as a cluster. -/
structure Valid (finder : ClusterFinder) (S : List Item) : Prop where
  size : ∃ min max, finder.sizeBounds = .ok (min, max) ∧ min ≤ S.length ∧ S.length ≤ max
  compatible : ∀ a ∈ S, ∀ b ∈ S, a ≠ b → finder.matcher.isCompatible a b = .ok true
  rules : ∀ rule ∈ finder.rules.rules, rule.Passes S

/-- A record says of a set of items what there is to say, and that every cluster rule holds. -/
structure Describes (finder : ClusterFinder) (c : Cluster) (S : List Item) : Prop where
  itemIds : c.itemIds = ItemId.sorted (S.map (·.id))
  ascending : ItemId.Ascending c.itemIds
  contains : ∀ id, c.contains id = true ↔ id ∈ S.map (·.id)
  size : c.size = S.length
  isValid : c.isValid = true
  evaluations : finder.rules.evaluate S = .ok c.evaluations
  ruleNames : c.evaluations.map (·.ruleName) = finder.rules.rules.map (·.name)
  passed : ∀ e ∈ c.evaluations, e.passed = true

/-! ## Wanted sets -/

theorem passes_iff : finder.passes s = .ok true ↔
    ∀ rule ∈ finder.rules.rules, rule.Passes (finder.members s) := by
  unfold passes
  rw [mapError_eq_ok_iff, RuleSet.passes_eq_true_iff]

/-- The short way to a verdict and the full evaluation agree on whether the rules hold. -/
theorem passes_iff_allPassed {evaluations : List RuleEvaluation}
    (h : finder.rules.evaluate (finder.members s) = .ok evaluations) :
    finder.passes s = .ok true ↔ RuleEvaluation.allPassed evaluations = true := by
  unfold passes
  rw [mapError_eq_ok_iff, RuleSet.passes_iff_evaluate, h]
  simp

/-- In a part of the catalog, any two items are compatible if the earlier passes with the later. -/
theorem compatible_iff_pairwise (h : S.Sublist finder.catalog.items) :
    (∀ a ∈ S, ∀ b ∈ S, a ≠ b → finder.matcher.isCompatible a b = .ok true) ↔
      S.Pairwise fun a b => finder.matcher.passes a b = .ok true := by
  have hsymm : Std.Symm fun a b => finder.matcher.passes a b = .ok true :=
    ⟨fun a b hab => finder.matcher.passes_swap.1 hab⟩
  have hnodup : S.Nodup := finder.catalog.distinct.of_map.sublist h
  constructor
  · intro hall
    refine hnodup.pairwise_of_forall_ne fun a ha b hb hne => ?_
    rw [← isCompatible_eq_passes (h.subset ha) (h.subset hb)]
    exact hall a ha b hb hne
  · intro hpair a ha b hb hne
    rw [isCompatible_eq_passes (h.subset ha) (h.subset hb)]
    exact hpair.forall ha hb hne

/-- A set of positions is wanted if and only if its items form a valid set. -/
theorem wanted_iff_valid (hbounds : finder.sizeBounds = .ok (min, max)) (hg : finder.Depicts g)
    (hs : finder.Selection s) :
    finder.Wanted g min max s ↔ finder.Valid (finder.members s) := by
  have hcompatible := (hg.clique_iff hs).trans (compatible_iff_pairwise hs.members_sublist).symm
  constructor
  · intro h
    refine ⟨⟨min, max, hbounds, ?_, ?_⟩, hcompatible.1 h.clique, passes_iff.1 h.passes⟩
    · exact hs.length_members ▸ h.min_le
    · exact hs.length_members ▸ h.le_max
  · rintro ⟨⟨min', max', hbounds', hle, hge⟩, hpairs, hrules⟩
    rw [hbounds, Except.ok.injEq, Prod.mk.injEq] at hbounds'
    obtain ⟨rfl, rfl⟩ := hbounds'
    rw [hs.length_members] at hle hge
    exact ⟨hs, hcompatible.2 hpairs, hle, hge, passes_iff.2 hrules⟩

/-! ## Records -/

theorem describes_of_clusterOf (hs : finder.Selection s) (hpass : finder.passes s = .ok true)
    (h : finder.clusterOf g max s = .ok c) : finder.Describes c (finder.members s) := by
  obtain ⟨evaluations, isMaximum, heval, -, rfl⟩ := clusterOf_eq_ok_iff.1 h
  have hpassed : RuleEvaluation.allPassed evaluations = true :=
    (passes_iff_allPassed heval).1 hpass
  exact {
    itemIds := rfl
    ascending := hs.ascending_sortedIds
    contains := fun id => (Cluster.contains_iff hs.ascending_sortedIds).trans ItemId.mem_sorted
    size := hs.length_members.symm
    isValid := rfl
    evaluations := heval
    ruleNames := RuleSet.ruleNames_of_evaluate heval
    passed := List.all_eq_true.1 hpassed }

theorem members_eq_of_describes (hs : finder.Selection s) (hS : S.Sublist finder.catalog.items)
    (h : finder.Describes c S) (hc : c.itemIds = finder.sortedIds s) : finder.members s = S := by
  obtain ⟨t, ht, rfl⟩ := exists_selection hS
  have heq : finder.sortedIds s = finder.sortedIds t := hc.symm.trans h.itemIds
  rw [hs.eq_of_sortedIds_eq ht heq]

/-- An analysis lists exactly the valid sets of items, each once and in a strict order. -/
theorem clusters_eq_validSets {analysis : ClusterAnalysis}
    (hcap : finder.config.maxClusters = none) (h : finder.analyze = .ok analysis) :
    (∀ S, S.Sublist finder.catalog.items →
      (finder.Valid S ↔ ∃ c ∈ analysis.clusters, finder.Describes c S)) ∧
    (∀ c ∈ analysis.clusters, ∃ S, S.Sublist finder.catalog.items ∧ finder.Describes c S) ∧
    (analysis.clusters.map (·.itemIds)).Nodup ∧
    analysis.clusters.Pairwise fun c d =>
      d.size < c.size ∨ c.size = d.size ∧ c.itemIds.map (·.text) < d.itemIds.map (·.text) := by
  obtain ⟨L⟩ := nonempty_listing hcap h
  refine ⟨fun S hS => ⟨fun hvalid => ?_, ?_⟩, fun c hc => ?_, ?_, ?_⟩
  · obtain ⟨s, hs, rfl⟩ := exists_selection hS
    have hwanted := (wanted_iff_valid L.bounds L.depicts hs).2 hvalid
    obtain ⟨c, hmem, hc⟩ := L.exists_record hwanted
    exact ⟨c, hmem, describes_of_clusterOf hs hwanted.passes hc⟩
  · rintro ⟨c, hmem, hdesc⟩
    obtain ⟨s, hwanted, hc⟩ := L.mem_clusters.1 hmem
    have hs := hwanted.selection
    rw [← members_eq_of_describes hs hS hdesc (itemIds_of_clusterOf hc)]
    exact (wanted_iff_valid L.bounds L.depicts hs).1 hwanted
  · obtain ⟨s, hwanted, hc⟩ := L.mem_clusters.1 hc
    have hs := hwanted.selection
    exact ⟨finder.members s, hs.members_sublist, describes_of_clusterOf hs hwanted.passes hc⟩
  · rw [List.Nodup, List.pairwise_map]
    exact L.pairwise_before.imp Before.ne
  · refine L.pairwise_before.imp_of_mem fun {c d} hc hd hbefore => ?_
    rw [← L.length_itemIds hc, ← L.length_itemIds hd]
    exact hbefore

theorem clusters_eq_validSets_wardrobe :
    wardrobe.config.maxClusters = none ∧ ∃ analysis, wardrobe.analyze = .ok analysis ∧
      (∀ S, S.Sublist wardrobe.catalog.items →
        (wardrobe.Valid S ↔ ∃ c ∈ analysis.clusters, wardrobe.Describes c S)) ∧
      (∀ c ∈ analysis.clusters, ∃ S, S.Sublist wardrobe.catalog.items ∧ wardrobe.Describes c S) ∧
      (analysis.clusters.map (·.itemIds)).Nodup ∧
      analysis.clusters.Pairwise fun c d =>
        d.size < c.size ∨ c.size = d.size ∧ c.itemIds.map (·.text) < d.itemIds.map (·.text) := by
  obtain ⟨analysis, h⟩ := exists_analysis_wardrobe
  exact ⟨rfl, analysis, h, clusters_eq_validSets rfl h⟩

end ClusterFinder

end Ensemble
