import Ensemble.Proofs.Clique.Stopping
import Ensemble.Proofs.Cluster.Compatibility

/-!
# The sets that a search finds

A search tests the sets that it reaches before it is stopped, one after the other.  If it is never
stopped, it finds exactly the cliques of an allowed size that pass the cluster rules, each once.
-/

namespace Ensemble

namespace ClusterFinder

variable {finder : ClusterFinder} {g : Graph} {min max : Nat} {s : IndexSet}

/-- Whether a visited set is to be found. -/
def wants (finder : ClusterFinder) (min : Nat) (s : IndexSet) : Except Error Bool :=
  if s.size ≥ Nat.max min 1 then finder.passes s else .ok false

/-- The search of a finder puts the sets to the cluster rules. -/
theorem search_eq (finder : ClusterFinder) (g : Graph) (min max : Nat) (cancel : Cancellation) :
    finder.search g min max cancel = .stoppable g min max cancel finder.passes := rfl

/-- A search tests the sets that it reaches, and polls once before each set that it reaches and once
more if it is stopped. -/
theorem run_visitAll (finder : ClusterFinder) (g : Graph) (min max : Nat) (cancel : Cancellation)
    (polls : Nat) (sets : List IndexSet) :
    ((finder.search g min max cancel).visitAll sets).run polls = do
      let found ← (cancel.reached polls sets).filterM (finder.wants min)
      return (⟨found, (cancel.reached polls sets).length,
        decide ((cancel.reached polls sets).length < sets.length)⟩,
        polls + Nat.min ((cancel.reached polls sets).length + 1) sets.length) := by
  rw [search_eq]
  exact Search.run_visitAll_stoppable polls sets

theorem run'_visitAll (finder : ClusterFinder) (g : Graph) (min max : Nat) (cancel : Cancellation)
    (polls : Nat) (sets : List IndexSet) :
    ((finder.search g min max cancel).visitAll sets).run' polls = do
      let found ← (cancel.reached polls sets).filterM (finder.wants min)
      return ⟨found, (cancel.reached polls sets).length,
        decide ((cancel.reached polls sets).length < sets.length)⟩ := by
  rw [StateT.run'_eq, run_visitAll, map_bind]
  simp only [map_pure]

/-! ## What is found -/

/-- A set that is to be found: a clique of an allowed size that passes the cluster rules. -/
structure Wanted (finder : ClusterFinder) (g : Graph) (min max : Nat) (s : IndexSet) : Prop where
  selection : finder.Selection s
  clique : s.members.Pairwise (g.adjacent · ·)
  min_le : min ≤ s.size
  le_max : s.size ≤ max
  passes : finder.passes s = .ok true

theorem Wanted.members_ne_nil (h : finder.Wanted g min max s) (hmin : 1 ≤ min) :
    s.members ≠ [] := by
  intro hnil
  have hle := h.min_le
  rw [IndexSet.size, hnil, List.length_nil] at hle
  omega

theorem wants_eq_true_iff (hmin : 1 ≤ min) :
    finder.wants min s = .ok true ↔ min ≤ s.size ∧ finder.passes s = .ok true := by
  have hbound : Nat.max min 1 = min := Nat.max_eq_left hmin
  unfold wants
  rw [hbound]
  by_cases h : s.size ≥ min
  · simp [h]
  · have hlt : ¬ min ≤ s.size := h
    simp [hlt]

/-- The sets that a search visits if it is never stopped. -/
def nodes (finder : ClusterFinder) (g : Graph) (min max : Nat) : List IndexSet :=
  (finder.search g min max .never).allNodes

theorem allNodes_search (cancel : Cancellation) :
    (finder.search g min max cancel).allNodes = finder.nodes g min max :=
  Search.allNodes_congr rfl rfl rfl

/-- A search that is never stopped tests the sets that it visits. -/
theorem run'_search_never :
    (finder.search g min max .never).run.run' 0 = do
      let found ← (finder.nodes g min max).filterM (finder.wants min)
      return ⟨found, (finder.nodes g min max).length, false⟩ := by
  rw [Search.run_eq_visitAll, run'_visitAll, allNodes_search, Cancellation.reached_never]
  simp

/-- Of the sets that have the least size, a search visits the cliques of at most the greatest. -/
theorem mem_nodes_iff (hg : g.size = finder.catalog.size) (hsize : Nat.max min 1 ≤ s.size) :
    s ∈ finder.nodes g min max ↔
      finder.Selection s ∧ s.members.Pairwise (g.adjacent · ·) ∧ s.size ≤ max := by
  refine (Search.mem_allNodes_iff hsize).trans ?_
  show s.capacity = g.size ∧ s.Within g.size ∧ _ ∧ _ ↔ _
  rw [hg]
  constructor
  · rintro ⟨hcap, hlt, hadj, hmax⟩
    exact ⟨⟨hcap, hlt⟩, hadj, hmax⟩
  · rintro ⟨⟨hcap, hlt⟩, hadj, hmax⟩
    exact ⟨hcap, hlt, hadj, hmax⟩

/-- A search visits sets of positions in the catalog. -/
theorem selection_of_mem_nodes (hg : g.size = finder.catalog.size)
    (hs : s ∈ finder.nodes g min max) (hsize : Nat.max min 1 ≤ s.size) :
    finder.Selection s ∧ s.members ≠ [] := by
  refine ⟨((mem_nodes_iff hg hsize).1 hs).1, fun hnil => ?_⟩
  have hpos : 1 ≤ s.size := le_trans (Nat.le_max_right ..) hsize
  rw [IndexSet.size, hnil] at hpos
  exact absurd hpos (by simp)

/-- A search succeeds if the cluster rules can judge the sets that it reaches.  It then finds those
with a positive test among them. -/
theorem run_search_eq_ok_iff {cancel : Cancellation} {result : SearchResult} {polls : Nat} :
    (finder.search g min max cancel).run.run 0 = .ok (result, polls) ↔
      (∀ s ∈ cancel.reached 0 (finder.nodes g min max), ∃ b, finder.wants min s = .ok b) ∧
      result = ⟨(cancel.reached 0 (finder.nodes g min max)).filter
          (fun s => (finder.wants min s).toOption == some true),
        (cancel.reached 0 (finder.nodes g min max)).length,
        decide ((cancel.reached 0 (finder.nodes g min max)).length
          < (finder.nodes g min max).length)⟩ ∧
      polls = Nat.min ((cancel.reached 0 (finder.nodes g min max)).length + 1)
        (finder.nodes g min max).length := by
  rw [Search.run_eq_visitAll, run_visitAll, allNodes_search, bind_eq_ok_iff]
  simp only [filterM_eq_ok_iff, pure_eq_ok, Except.ok.injEq, Prod.mk.injEq, Nat.zero_add,
    and_assoc, exists_and_left, exists_eq_left, eq_comm (b := result), eq_comm (b := polls)]

theorem run'_search_eq_ok_iff {cancel : Cancellation} {result : SearchResult} :
    (finder.search g min max cancel).run.run' 0 = .ok result ↔
      ∃ polls, (finder.search g min max cancel).run.run 0 = .ok (result, polls) := by
  rw [StateT.run'_eq]
  cases (finder.search g min max cancel).run.run 0 with
  | error e => simp
  | ok p =>
    obtain ⟨found, polls⟩ := p
    simp

theorem result_of_search {cancel : Cancellation} {result : SearchResult}
    (h : (finder.search g min max cancel).run.run' 0 = .ok result) :
    result.found = (cancel.reached 0 (finder.nodes g min max)).filter
        (fun s => (finder.wants min s).toOption == some true) ∧
      result.cancelled = decide ((cancel.reached 0 (finder.nodes g min max)).length
        < (finder.nodes g min max).length) := by
  obtain ⟨polls, h⟩ := run'_search_eq_ok_iff.1 h
  obtain ⟨-, rfl, -⟩ := run_search_eq_ok_iff.1 h
  exact ⟨rfl, rfl⟩

theorem selection_of_mem_found {cancel : Cancellation} {result : SearchResult}
    (hg : g.size = finder.catalog.size)
    (h : (finder.search g min max cancel).run.run' 0 = .ok result) (hs : s ∈ result.found) :
    finder.Selection s ∧ s.members ≠ [] := by
  rw [(result_of_search h).1] at hs
  obtain ⟨hmem, hwanted⟩ := List.mem_filter.1 hs
  have hnode := (cancel.reached_sublist ..).subset hmem
  by_cases hsize : s.size ≥ Nat.max min 1
  · exact selection_of_mem_nodes hg hnode hsize
  · rw [wants, if_neg hsize] at hwanted
    cases hwanted

/-- A search that is never stopped finds exactly the wanted sets, each once. -/
theorem found_of_search (hg : finder.Depicts g) (hmin : 1 ≤ min) {result : SearchResult}
    (h : (finder.search g min max .never).run.run' 0 = .ok result) :
    result.cancelled = false ∧ result.found.Nodup ∧
      ∀ s, s ∈ result.found ↔ finder.Wanted g min max s := by
  obtain ⟨hfound, hcancelled⟩ := result_of_search h
  rw [Cancellation.reached_never] at hfound hcancelled
  rw [hfound, hcancelled]
  refine ⟨by simp, Search.nodup_allNodes.filter _, fun s => ?_⟩
  have hwanted : ((finder.wants min s).toOption == some true) = true ↔
      min ≤ s.size ∧ finder.passes s = .ok true :=
    toOption_beq_some_iff.trans (wants_eq_true_iff hmin)
  rw [List.mem_filter, hwanted]
  have hnodes : min ≤ s.size → (s ∈ finder.nodes g min max ↔ _) :=
    fun hle => mem_nodes_iff hg.size ((Nat.max_eq_left hmin).trans_le hle)
  constructor
  · rintro ⟨hmem, hle, hpass⟩
    obtain ⟨hsel, hadj, hmax⟩ := (hnodes hle).1 hmem
    exact ⟨hsel, hadj, hle, hmax, hpass⟩
  · rintro ⟨hsel, hadj, hle, hmax, hpass⟩
    exact ⟨(hnodes hle).2 ⟨hsel, hadj, hmax⟩, hle, hpass⟩

end ClusterFinder

end Ensemble
