import Ensemble.Proofs.Cluster.Safety
import Ensemble.Proofs.Cluster.Validity

/-!
# Records never fail

A complete search puts every clique of an allowed size to the cluster rules.  The record of a set
that it has found asks the rules about the set and about larger cliques, so where the search has
succeeded, no record can fail.
-/

namespace Ensemble

namespace ClusterFinder

variable {finder : ClusterFinder} {g : Graph} {min max : Nat} {s : IndexSet}
  {result : SearchResult}

/-- The cluster rules can judge every clique of an allowed size. -/
def Judged (finder : ClusterFinder) (g : Graph) (min max : Nat) : Prop :=
  ∀ s, finder.Selection s → s.members.Pairwise (g.adjacent · ·) → min ≤ s.size → s.size ≤ max →
    ∃ b, finder.passes s = .ok b

/-- A complete search succeeds if and only if the rules can judge every clique of an allowed
size. -/
theorem exists_result_iff (hg : finder.Depicts g) (hmin : 1 ≤ min) :
    (∃ result, (finder.search g min max .never).run.run' 0 = .ok result) ↔
      finder.Judged g min max := by
  have hbound : Nat.max min 1 = min := Nat.max_eq_left hmin
  have hnodes : ∀ s, min ≤ s.size → (s ∈ finder.nodes g min max ↔ _) :=
    fun s hle => mem_nodes_iff hg.size (hbound.trans_le hle)
  constructor
  · rintro ⟨result, h⟩ s hsel hadj hle hmax
    obtain ⟨polls, h⟩ := run'_search_eq_ok_iff.1 h
    have hjudged := (run_search_eq_ok_iff.1 h).1
    rw [Cancellation.reached_never] at hjudged
    obtain ⟨b, hb⟩ := hjudged s ((hnodes s hle).2 ⟨hsel, hadj, hmax⟩)
    rw [wants, hbound, if_pos hle] at hb
    exact ⟨b, hb⟩
  · intro h
    have hjudged : ∀ s ∈ Cancellation.never.reached 0 (finder.nodes g min max),
        ∃ b, finder.wants min s = .ok b := by
      intro s hs
      rw [Cancellation.reached_never] at hs
      unfold wants
      rw [hbound]
      by_cases hle : s.size ≥ min
      · rw [if_pos hle]
        obtain ⟨hsel, hadj, hmax⟩ := (hnodes s hle).1 hs
        exact h s hsel hadj hle hmax
      · rw [if_neg hle]
        exact ⟨false, rfl⟩
    exact ⟨_, run'_search_eq_ok_iff.2 ⟨_, run_search_eq_ok_iff.2 ⟨hjudged, rfl, rfl⟩⟩⟩

theorem exists_isMaximal_go {is : List Nat}
    (h : ∀ i ∈ is, ∃ b, finder.passes (s.insert i) = .ok b) :
    ∃ b, isMaximal.go finder s is = .ok b := by
  induction is with
  | nil => exact ⟨true, rfl⟩
  | cons i is ih =>
    obtain ⟨⟨grows, hgrows⟩, his⟩ := List.forall_mem_cons.1 h
    rw [isMaximal.go, hgrows, ok_bind]
    cases grows with
    | true => exact ⟨false, rfl⟩
    | false => exact ih his

/-- The record of a wanted set exists where the rules can judge every clique. -/
theorem Judged.exists_record (h : finder.Judged g min max) (hg : finder.Depicts g) (hmin : 1 ≤ min)
    (hs : finder.Wanted g min max s) : ∃ c, finder.clusterOf g max s = .ok c := by
  obtain ⟨evaluations, heval, -⟩ := RuleSet.passes_iff_evaluate.1 (mapError_eq_ok_iff.1 hs.passes)
  have hmaximal : ∃ b, finder.isMaximal s max (g.commonNeighbors s) = .ok b := by
    unfold isMaximal
    by_cases hfull : s.size ≥ max
    · exact ⟨true, if_pos hfull⟩
    · rw [if_neg hfull]
      refine exists_isMaximal_go fun i hi => ?_
      -- A candidate makes a clique with the set, and the clique is not too large.
      obtain ⟨hnew, hadj⟩ := (Graph.mem_commonNeighbors (hs.members_ne_nil hmin)).1 hi
      obtain ⟨j, hj⟩ := List.exists_mem_of_ne_nil _ (hs.members_ne_nil hmin)
      have hbelow : i < finder.catalog.size := hg.size ▸ (Graph.adjacent_lt (hadj j hj)).2
      have hclique := (Graph.clique_insert_iff hnew).2 ⟨hs.clique, hadj⟩
      have hsize := IndexSet.size_insert hnew
      have hle := hs.min_le
      exact h _ (hs.selection.insert hbelow) hclique (by omega) (by omega)
  obtain ⟨isMaximum, hmaximal⟩ := hmaximal
  exact ⟨_, clusterOf_eq_ok_iff.2 ⟨evaluations, isMaximum, heval, hmaximal, rfl⟩⟩

/-- After a complete search all records exist. -/
theorem exists_records (hg : finder.Depicts g) (hmin : 1 ≤ min)
    (h : (finder.search g min max .never).run.run' 0 = .ok result) :
    ∃ clusters, (finder.sortSets result.found).mapM (finder.clusterOf g max) = .ok clusters := by
  have hjudged := (exists_result_iff hg hmin).1 ⟨result, h⟩
  obtain ⟨-, -, hfound⟩ := found_of_search hg hmin h
  refine exists_mapM fun s hs => hjudged.exists_record hg hmin ((hfound s).1 ?_)
  exact (finder.sortSets_perm _).subset hs

/-! ## Analyses -/

/-- Any two items of a list go together. -/
def Compatible (finder : ClusterFinder) (S : List Item) : Prop :=
  ∀ a ∈ S, ∀ b ∈ S, a ≠ b → finder.matcher.isCompatible a b = .ok true

/-- The rules can judge every clique if they can judge every list of items that go together. -/
theorem judged_iff (hg : finder.Depicts g) :
    finder.Judged g min max ↔
      ∀ S, S.Sublist finder.catalog.items → finder.Compatible S → min ≤ S.length →
        S.length ≤ max → ∃ b, finder.rules.passes S = .ok b := by
  have hclique : ∀ s, finder.Selection s →
      (s.members.Pairwise (g.adjacent · ·) ↔ finder.Compatible (finder.members s)) := fun s hs =>
    (hg.clique_iff hs).trans (compatible_iff_pairwise hs.members_sublist).symm
  have hpasses : ∀ s b, finder.passes s = .ok b ↔ finder.rules.passes (finder.members s) = .ok b :=
    fun s b => mapError_eq_ok_iff
  constructor
  · intro h S hS hcompatible hle hmax
    obtain ⟨s, hs, rfl⟩ := exists_selection hS
    rw [hs.length_members] at hle hmax
    obtain ⟨b, hb⟩ := h s hs ((hclique s hs).2 hcompatible) hle hmax
    exact ⟨b, (hpasses s b).1 hb⟩
  · intro h s hs hadj hle hmax
    rw [← hs.length_members] at hle hmax
    obtain ⟨b, hb⟩ := h _ hs.members_sublist ((hclique s hs).1 hadj) hle hmax
    exact ⟨b, (hpasses s b).2 hb⟩

/-- An analysis succeeds if the sizes are in order and the rules can judge every list of items that
go together. -/
theorem exists_analysis_iff :
    (∃ analysis, finder.analyze = .ok analysis) ↔
      ∃ min max, finder.sizeBounds = .ok (min, max) ∧
        ∀ S, S.Sublist finder.catalog.items → finder.Compatible S → min ≤ S.length →
          S.length ≤ max → ∃ b, finder.rules.passes S = .ok b := by
  constructor
  · rintro ⟨analysis, h⟩
    obtain ⟨min, max, g, result, _, hbounds, hgraph, hresult, -⟩ := analyzeWith_eq_ok_iff.1 h
    have hg := depicts_of_graph hgraph
    have hjudged := (exists_result_iff hg (one_le_of_sizeBounds hbounds)).1 ⟨result, hresult⟩
    exact ⟨min, max, hbounds, (judged_iff hg).1 hjudged⟩
  · rintro ⟨min, max, hbounds, hjudged⟩
    have hmin := one_le_of_sizeBounds hbounds
    obtain ⟨g, hgraph⟩ := finder.exists_graph
    have hg := depicts_of_graph hgraph
    obtain ⟨result, hresult⟩ := (exists_result_iff hg hmin).2 ((judged_iff hg).2 hjudged)
    obtain ⟨_, hrecords⟩ := exists_records hg hmin hresult
    obtain ⟨clusters, hclusters, -⟩ := exists_mapM_of_sublist hrecords (finder.kept_sublist _)
    exact ⟨_, analyzeWith_eq_ok_iff.2
      ⟨min, max, g, result, clusters, hbounds, hgraph, hresult, hclusters, rfl⟩⟩

end ClusterFinder

end Ensemble
