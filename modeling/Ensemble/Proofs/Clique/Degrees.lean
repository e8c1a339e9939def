import Ensemble.Proofs.Clique.Graph
import Mathlib.Algebra.BigOperators.Group.Finset.Piecewise

/-!
# Degrees and the number of edges

A new edge counts once and raises the degrees of its two ends by one, so in a graph that is built
edge by edge the degrees add up to twice the number of edges.  Since the neighbours determine the
degrees, such a graph depends on nothing but which vertices its edges join: not on the order of the
edges, on their orientation, or on repetitions and loops.
-/

namespace Ensemble

namespace Graph

variable {g h : Graph} {n i j v : Nat} {s : IndexSet} {edges others : List (Nat × Nat)}

/-- Some edge of a list joins two vertices, in either orientation. -/
def Joins (edges : List (Nat × Nat)) (i j : Nat) : Prop := (i, j) ∈ edges ∨ (j, i) ∈ edges

/-! ## One edge -/

/-- The neighbours that a vertex gets in one direction. -/
theorem getElem?_link {adjacency : List IndexSet} :
    (Adjacency.link adjacency i j)[v]? =
      if i = v then adjacency[v]?.map (·.insert j) else adjacency[v]? := by
  rw [Adjacency.link, List.getElem?_modify]
  split <;> simp

theorem size_join (hi : i < g.size) (hj : j < g.size) (hne : i ≠ j) :
    (g.join i j hi hj hne).size = g.size := by
  simp [join, size]

/-- Joining two vertices makes each of them a neighbour of the other and changes no other
vertex. -/
theorem neighbors_join (hi : i < g.size) (hj : j < g.size) (hne : i ≠ j) :
    (g.join i j hi hj hne).neighbors v =
      if i = v then (g.neighbors v).insert j
      else if j = v then (g.neighbors v).insert i
      else g.neighbors v := by
  unfold neighbors
  rw [size_join, join]
  dsimp only
  rw [getElem?_link, getElem?_link]
  by_cases hiv : i = v
  · subst hiv
    have hget : g.adjacency[i]? = some g.adjacency[i] := List.getElem?_eq_getElem hi
    simp [hne.symm, hget]
  · by_cases hjv : j = v
    · subst hjv
      have hget : g.adjacency[j]? = some g.adjacency[j] := List.getElem?_eq_getElem hj
      simp [hiv, hget]
    · simp [hiv, hjv]

/-- A new edge raises the degrees of its two ends by one. -/
theorem degree_join (hi : i < g.size) (hj : j < g.size) (hne : i ≠ j)
    (hnew : g.adjacent i j = false) :
    (g.join i j hi hj hne).degree v =
      g.degree v + ((if i = v then 1 else 0) + if j = v then 1 else 0) := by
  unfold degree
  rw [neighbors_join]
  by_cases hiv : i = v
  · subst hiv
    have hj' : j ∉ (g.neighbors i).members := by simp [mem_neighbors, hnew]
    simp [hne.symm, IndexSet.size_insert hj']
  · by_cases hjv : j = v
    · subst hjv
      have hi' : i ∉ (g.neighbors j).members := by simp [mem_neighbors, adjacent_comm, hnew]
      simp [hiv, IndexSet.size_insert hi']
    · simp [hiv, hjv]

/-! ## Any number of edges -/

/-- The degrees add up to twice the number of edges. -/
def Balanced (g : Graph) : Prop := ∑ v ∈ Finset.range g.size, g.degree v = 2 * g.edgeCount

theorem balanced_edgeless (n : Nat) : (edgeless n).Balanced := by
  refine Finset.sum_eq_zero fun v _ => ?_
  have hnone : ∀ j, j ∉ ((edgeless n).neighbors v).members := fun j => by
    simp [mem_neighbors, adjacent_edgeless]
  rw [degree, IndexSet.size, List.eq_nil_iff_forall_not_mem.2 hnone, List.length_nil]

theorem Balanced.join (hg : g.Balanced) (hi : i < g.size) (hj : j < g.size) (hne : i ≠ j)
    (hnew : g.adjacent i j = false) : (g.join i j hi hj hne).Balanced := by
  unfold Balanced at hg ⊢
  rw [size_join]
  calc ∑ v ∈ Finset.range g.size, (g.join i j hi hj hne).degree v
      = ∑ v ∈ Finset.range g.size,
          (g.degree v + ((if i = v then 1 else 0) + if j = v then 1 else 0)) :=
        Finset.sum_congr rfl fun v _ => degree_join hi hj hne hnew
    _ = ∑ v ∈ Finset.range g.size, g.degree v + (1 + 1) := by
        rw [Finset.sum_add_distrib, Finset.sum_add_distrib, Finset.sum_ite_eq, Finset.sum_ite_eq,
          if_pos (Finset.mem_range.2 hi), if_pos (Finset.mem_range.2 hj)]
    _ = 2 * (g.edgeCount + 1) := by
        rw [hg]
        omega

theorem Balanced.addEdge (hg : g.Balanced) (edge : Nat × Nat) : (g.addEdge edge).Balanced := by
  unfold Graph.addEdge
  split
  · split
    · exact hg
    · rename_i hnew
      exact hg.join _ _ _ (Bool.eq_false_iff.2 hnew)
  · exact hg

theorem balanced_ofEdges (n : Nat) (edges : List (Nat × Nat)) : (ofEdges n edges).Balanced :=
  List.foldlRecOn edges addEdge (balanced_edgeless n) fun _ hg edge _ => hg.addEdge edge

/-! ## Graphs with the same neighbours -/

theorem capacities_link {adjacency : List IndexSet} :
    (Adjacency.link adjacency i j).map (·.capacity) = adjacency.map (·.capacity) := by
  refine List.ext_getElem? fun v => ?_
  rw [List.getElem?_map, List.getElem?_map, getElem?_link]
  split
  · rw [Option.map_map]
    rfl
  · rfl

theorem capacities_addEdge (g : Graph) (edge : Nat × Nat) :
    (g.addEdge edge).adjacency.map (·.capacity) = g.adjacency.map (·.capacity) := by
  unfold addEdge
  split
  · split
    · rfl
    · rw [join, capacities_link, capacities_link]
  · rfl

/-- All sets of neighbours are meant for the same vertices. -/
theorem capacities_ofEdges (n : Nat) (edges : List (Nat × Nat)) :
    (ofEdges n edges).adjacency.map (·.capacity) = List.replicate n n := by
  refine List.foldlRecOn edges addEdge ?_ fun g hg edge _ => (g.capacities_addEdge edge).trans hg
  rw [edgeless, List.map_replicate]
  rfl

/-- The neighbours and the number of edges are all there is to a graph. -/
theorem eq_of_adjacent (hcap : g.adjacency.map (·.capacity) = h.adjacency.map (·.capacity))
    (hadj : ∀ i j, g.adjacent i j = h.adjacent i j) (hg : g.Balanced) (hh : h.Balanced) :
    g = h := by
  have hadjacency : g.adjacency = h.adjacency := by
    refine List.ext_getElem (by simpa using congrArg List.length hcap) fun v hv hv' => ?_
    have hcapv : g.adjacency[v].capacity = h.adjacency[v].capacity := by
      have hget := congrArg (·[v]?) hcap
      simpa [hv, hv'] using hget
    refine IndexSet.eq_of_mem_iff hcapv fun j => ?_
    have hiff := congrArg (· = true) (hadj v j)
    simpa [adjacent, neighbors, hv, hv'] using hiff
  have hcount : g.edgeCount = h.edgeCount := by
    refine Nat.eq_of_mul_eq_mul_left Nat.two_pos ?_
    rw [← hg, ← hh]
    unfold degree neighbors size
    rw [hadjacency]
  cases g
  cases h
  cases hadjacency
  cases hcount
  rfl

/-- A graph depends on nothing but which vertices its edges join. -/
theorem ofEdges_congr (h : ∀ i j, Joins edges i j ↔ Joins others i j) :
    ofEdges n edges = ofEdges n others := by
  refine eq_of_adjacent ?_ (fun i j => ?_) (balanced_ofEdges n edges) (balanced_ofEdges n others)
  · rw [capacities_ofEdges, capacities_ofEdges]
  · rw [Bool.eq_iff_iff, adjacent_ofEdges, adjacent_ofEdges]
    have hij := h i j
    unfold Joins at hij
    rw [hij]

/-! ## Graphs of edges between vertices -/

theorem isClique_iff :
    g.isClique s = true ↔
      ∀ i ∈ s.members, ∀ j ∈ s.members, i ≠ j → g.adjacent i j = true := by
  unfold isClique IndexSet.isSubset
  rw [List.all_eq_true]
  refine forall₂_congr fun i _ => ?_
  rw [List.all_eq_true]
  simp only [IndexSet.mem_remove, IndexSet.contains_iff, mem_neighbors, and_imp, ne_comm (b := i)]

theorem ofEdges?_of_lt (hedges : ∀ i j, Joins edges i j → i < n) :
    ofEdges? n edges = some (ofEdges n edges) := by
  refine if_pos (List.all_eq_true.2 ?_)
  rintro ⟨i, j⟩ hij
  have hi : i < n := hedges i j (.inl hij)
  have hj : j < n := hedges j i (.inr hij)
  simp [isWithin, hi, hj]

/-- Any list of edges between the first `n` indices makes a graph without loops, in which two
different vertices are neighbours if and only if some edge joins them.  The graph depends on nothing
else, and its number of edges is that of its pairs of neighbours: the degrees add up to twice that
number.  Cliques and common neighbours are what they are called. -/
theorem ofEdges?_simple (hedges : ∀ edge ∈ edges, edge.1 < n ∧ edge.2 < n) :
    ∃ g, ofEdges? n edges = some g ∧ g.size = n
      ∧ (∀ i j, g.adjacent i j = true ↔ i ≠ j ∧ Joins edges i j)
      ∧ (∀ i j, g.adjacent i j = g.adjacent j i)
      ∧ (∀ i, g.adjacent i i = false)
      ∧ (∀ others, (∀ i j, Joins others i j ↔ Joins edges i j) → ofEdges? n others = some g)
      ∧ ∑ v ∈ Finset.range n, g.degree v = 2 * g.edgeCount
      ∧ (∀ s : IndexSet, s.Within n → (g.isClique s = true ↔
          ∀ i ∈ s.members, ∀ j ∈ s.members, i ≠ j → g.adjacent i j = true))
      ∧ ∀ s : IndexSet, s.Within n → s.members ≠ [] → ∀ v, v ∈ (g.commonNeighbors s).members ↔
          v < n ∧ v ∉ s.members ∧ ∀ i ∈ s.members, g.adjacent i v = true := by
  have hends : ∀ i j, Joins edges i j → i < n := by
    rintro i j (hij | hji)
    · exact (hedges _ hij).1
    · exact (hedges _ hji).2
  have hsize := size_ofEdges n edges
  refine ⟨ofEdges n edges, ofEdges?_of_lt hends, hsize, fun i j => ?_, fun i j => adjacent_comm,
    fun i => adjacent_self, fun others hjoins => ?_, ?_, fun s _ => isClique_iff,
    fun s _ hs v => ?_⟩
  · rw [adjacent_ofEdges]
    refine ⟨fun ⟨_, _, hne, hjoins⟩ => ⟨hne, hjoins⟩, fun ⟨hne, hjoins⟩ => ?_⟩
    exact ⟨hends i j hjoins, hends j i hjoins.symm, hne, hjoins⟩
  · rw [ofEdges?_of_lt fun i j hij => hends i j ((hjoins i j).1 hij), ofEdges_congr hjoins]
  · have hbalanced := balanced_ofEdges n edges
    rwa [Balanced, hsize] at hbalanced
  · rw [mem_commonNeighbors hs, iff_and_self]
    rintro ⟨-, hall⟩
    obtain ⟨i, hi⟩ := List.exists_mem_of_ne_nil _ hs
    exact hsize ▸ (adjacent_lt (hall i hi)).2

/-- A triangle with one more vertex at one of its corners, written with repetitions and a loop. -/
def paw : List (Nat × Nat) := [(0, 1), (1, 0), (2, 2), (1, 2), (2, 0), (0, 1), (3, 2)]

theorem ofEdges?_simple_paw :
    (∀ edge ∈ paw, edge.1 < 4 ∧ edge.2 < 4) ∧ ∃ g, ofEdges? 4 paw = some g
      ∧ ofEdges? 4 paw.reverse = some g
      ∧ ∑ v ∈ Finset.range 4, g.degree v = 8
      ∧ g.isClique (.ofList 4 [0, 1, 2]) = true
      ∧ 2 ∈ (g.commonNeighbors (.ofList 4 [0, 1])).members := by
  have hedges : ∀ edge ∈ paw, edge.1 < 4 ∧ edge.2 < 4 := by decide
  obtain ⟨g, hg, -, -, -, -, hsame, hdegrees, hclique, hcommon⟩ := ofEdges?_simple hedges
  have hreverse : ∀ i j, Joins paw.reverse i j ↔ Joins paw i j := by simp [Joins]
  obtain rfl : ofEdges 4 paw = g := Option.some.inj hg
  have htriangle : (IndexSet.ofList 4 [0, 1, 2]).Within 4 := by decide
  have hedge : (IndexSet.ofList 4 [0, 1]).Within 4 := by decide
  exact ⟨hedges, _, hg, hsame _ hreverse, hdegrees, (hclique _ htriangle).2 (by decide),
    (hcommon _ hedge (by decide) 2).2 (by decide)⟩

end Graph

end Ensemble
