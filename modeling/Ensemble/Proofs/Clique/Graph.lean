import Ensemble.Clique.Graph
import Ensemble.Proofs.Clique.IndexSet
import Mathlib.Data.List.Pairwise

/-!
# Edges and common neighbours

Which vertices of a graph are neighbours, in terms of the edges it was built from, how many edges it
has, and which vertices are neighbours of a whole set.
-/

namespace Ensemble

namespace Graph

theorem mem_neighbors {g : Graph} {i j : Nat} :
    j ∈ (g.neighbors i).members ↔ g.adjacent i j = true := by
  rw [adjacent, IndexSet.contains_iff]

theorem adjacent_lt {g : Graph} {i j : Nat} (h : g.adjacent i j = true) :
    i < g.size ∧ j < g.size := by
  have lt_size : ∀ {a b}, g.adjacent a b = true → a < g.size := by
    intro a b hab
    obtain ⟨s, hs, -⟩ := adjacent_iff.1 hab
    exact (List.getElem?_eq_some_iff.1 hs).1
  exact ⟨lt_size h, lt_size (adjacent_comm.trans h)⟩

/-! ## Building -/

theorem size_edgeless (n : Nat) : (edgeless n).size = n := List.length_replicate

theorem adjacent_edgeless (n i j : Nat) : (edgeless n).adjacent i j = false := by
  rw [← Bool.not_eq_true, adjacent_iff]
  exact not_joined_replicate

theorem size_addEdge (g : Graph) (edge : Nat × Nat) : (g.addEdge edge).size = g.size := by
  unfold addEdge
  split
  · split
    · rfl
    · simp [join, size]
  · rfl

theorem adjacent_join {g : Graph} {i j a b : Nat} (hi : i < g.size) (hj : j < g.size)
    (hne : i ≠ j) :
    (g.join i j hi hj hne).adjacent a b = true ↔
      g.adjacent a b = true ∨ (a = i ∧ b = j) ∨ (a = j ∧ b = i) := by
  rw [adjacent_iff, adjacent_iff, join]
  dsimp only
  rw [Adjacency.joined_link (by simpa [size] using hj), Adjacency.joined_link hi, or_assoc]

theorem adjacent_addEdge {g : Graph} {edge : Nat × Nat} {a b : Nat} :
    (g.addEdge edge).adjacent a b = true ↔
      g.adjacent a b = true ∨
        edge.1 < g.size ∧ edge.2 < g.size ∧ edge.1 ≠ edge.2 ∧ ((a, b) = edge ∨ (b, a) = edge) := by
  obtain ⟨i, j⟩ := edge
  unfold addEdge
  split
  · rename_i h
    split
    · rename_i hadj
      refine ⟨Or.inl, ?_⟩
      rintro (hab | ⟨-, -, -, hab | hab⟩)
      · exact hab
      · obtain ⟨rfl, rfl⟩ := Prod.mk.inj hab
        exact hadj
      · obtain ⟨rfl, rfl⟩ := Prod.mk.inj hab
        exact adjacent_comm.trans hadj
    · rw [adjacent_join]
      simp only [h, ne_eq, not_false_eq_true, Prod.mk.injEq, true_and, and_comm (a := b = i)]
  · rename_i h
    refine ⟨Or.inl, ?_⟩
    rintro (hab | ⟨hi, hj, hne, -⟩)
    · exact hab
    · exact absurd ⟨hi, hj, hne⟩ h

theorem foldl_addEdge {edges : List (Nat × Nat)} {g : Graph} :
    (edges.foldl addEdge g).size = g.size ∧
      ∀ i j, (edges.foldl addEdge g).adjacent i j = true ↔
        g.adjacent i j = true ∨
          i < g.size ∧ j < g.size ∧ i ≠ j ∧ ((i, j) ∈ edges ∨ (j, i) ∈ edges) := by
  induction edges generalizing g with
  | nil => simp
  | cons edge edges ih =>
    obtain ⟨hsize, hadj⟩ := ih (g := g.addEdge edge)
    refine ⟨hsize.trans (g.size_addEdge edge), fun i j => ?_⟩
    rw [List.foldl_cons, hadj, adjacent_addEdge, size_addEdge]
    obtain ⟨a, b⟩ := edge
    simp only [List.mem_cons, Prod.mk.injEq]
    grind

theorem size_ofEdges (n : Nat) (edges : List (Nat × Nat)) : (ofEdges n edges).size = n :=
  foldl_addEdge.1.trans (size_edgeless n)

theorem adjacent_ofEdges {n : Nat} {edges : List (Nat × Nat)} {i j : Nat} :
    (ofEdges n edges).adjacent i j = true ↔
      i < n ∧ j < n ∧ i ≠ j ∧ ((i, j) ∈ edges ∨ (j, i) ∈ edges) := by
  rw [ofEdges, foldl_addEdge.2, size_edgeless, adjacent_edgeless]
  simp

/-! ## Counting edges -/

theorem edgeCount_addEdge {g : Graph} {i j : Nat} (hij : i < j) (hj : j < g.size)
    (h : g.adjacent i j = false) : (g.addEdge (i, j)).edgeCount = g.edgeCount + 1 := by
  have hi : i < g.size := by omega
  have hne : i ≠ j := by omega
  unfold addEdge
  rw [dif_pos ⟨hi, hj, hne⟩, if_neg (by simp [h])]
  rfl

/-- Each new edge counts once. -/
theorem edgeCount_foldl_addEdge {edges : List (Nat × Nat)} {g : Graph} (hnodup : edges.Nodup)
    (hedges : ∀ i j, (i, j) ∈ edges → i < j ∧ j < g.size ∧ g.adjacent i j = false) :
    (edges.foldl addEdge g).edgeCount = g.edgeCount + edges.length := by
  induction edges generalizing g with
  | nil => rfl
  | cons edge edges ih =>
    obtain ⟨a, b⟩ := edge
    obtain ⟨hnew, hnodup⟩ := List.nodup_cons.1 hnodup
    obtain ⟨hab, hb, hfree⟩ := hedges a b List.mem_cons_self
    rw [List.foldl_cons, ih hnodup, edgeCount_addEdge hab hb hfree, List.length_cons]
    · omega
    · intro i j hij
      obtain ⟨hlt, hj, hfree⟩ := hedges i j (List.mem_cons_of_mem _ hij)
      refine ⟨hlt, (g.size_addEdge (a, b)).symm ▸ hj, ?_⟩
      -- The added edge is another one, and no later edge is written the other way round.
      rw [← Bool.not_eq_true, adjacent_addEdge, hfree]
      rintro (hadj | ⟨-, -, -, heq | heq⟩)
      · cases hadj
      · exact hnew (heq ▸ hij)
      · obtain ⟨rfl, rfl⟩ := Prod.mk.inj heq
        omega

theorem edgeCount_ofEdges {n : Nat} {edges : List (Nat × Nat)} (hnodup : edges.Nodup)
    (hedges : ∀ i j, (i, j) ∈ edges → i < j ∧ j < n) :
    (ofEdges n edges).edgeCount = edges.length := by
  have hcount := edgeCount_foldl_addEdge (g := edgeless n) hnodup fun i j hij => by
    obtain ⟨hlt, hj⟩ := hedges i j hij
    exact ⟨hlt, (size_edgeless n).symm ▸ hj, adjacent_edgeless n i j⟩
  rw [ofEdges, hcount]
  exact Nat.zero_add _

/-! ## Common neighbours -/

theorem mem_foldl_inter {g : Graph} {v : Nat} :
    ∀ {is : List Nat} {common : IndexSet},
      v ∈ (is.foldl (fun common j => common.inter (g.neighbors j)) common).members ↔
        v ∈ common.members ∧ ∀ i ∈ is, g.adjacent i v = true
  | [], common => by simp
  | i :: is, common => by
    rw [List.foldl_cons, mem_foldl_inter, IndexSet.mem_inter, mem_neighbors, List.forall_mem_cons,
      and_assoc]

theorem mem_commonNeighbors {g : Graph} {s : IndexSet} (hs : s.members ≠ []) {v : Nat} :
    v ∈ (g.commonNeighbors s).members ↔ v ∉ s.members ∧ ∀ i ∈ s.members, g.adjacent i v = true := by
  unfold commonNeighbors
  split
  · rename_i h
    exact absurd h hs
  · rename_i i rest h
    rw [IndexSet.mem_diff, mem_foldl_inter, mem_neighbors, h, List.forall_mem_cons, and_comm]

/-! ## Cliques -/

theorem clique_iff {g : Graph} {s : IndexSet} :
    s.members.Pairwise (g.adjacent · ·) ↔
      ∀ i ∈ s.members, ∀ j ∈ s.members, i ≠ j → g.adjacent i j = true := by
  have hsymm : Std.Symm fun i j => g.adjacent i j = true := ⟨fun i j h => adjacent_comm.trans h⟩
  constructor
  · intro h i hi j hj hne
    exact h.forall hi hj hne
  · exact s.nodup_members.pairwise_of_forall_ne

/-- A clique grows by a common neighbour of its members. -/
theorem clique_insert_iff {g : Graph} {s : IndexSet} {i : Nat} (hi : i ∉ s.members) :
    (s.insert i).members.Pairwise (g.adjacent · ·) ↔
      s.members.Pairwise (g.adjacent · ·) ∧ ∀ j ∈ s.members, g.adjacent j i = true := by
  have hne : ∀ j ∈ s.members, j ≠ i := fun j hj heq => hi (heq ▸ hj)
  rw [clique_iff, clique_iff]
  simp only [IndexSet.mem_insert]
  constructor
  · intro h
    refine ⟨fun j hj k hk => h j (.inr hj) k (.inr hk), fun j hj => ?_⟩
    exact h j (.inr hj) i (.inl rfl) (hne j hj)
  · rintro ⟨hclique, hall⟩ j hj k hk hjk
    rcases hj with rfl | hj
    · rcases hk with rfl | hk
      · exact absurd rfl hjk
      · exact adjacent_comm.trans (hall k hk)
    · rcases hk with rfl | hk
      · exact hall j hj
      · exact hclique j hj k hk hjk

end Graph

end Ensemble
