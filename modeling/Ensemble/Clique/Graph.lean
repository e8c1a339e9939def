import Ensemble.Clique.IndexSet

/-!
# Graphs

A graph has the vertices `0, 1, …` and undirected edges between different vertices.  It is kept as
the neighbours of each vertex, with the number of edges.
-/

namespace Ensemble

namespace Adjacency

/-- Whether an index is among the neighbours of a vertex. -/
def Joined (adjacency : List IndexSet) (i j : Nat) : Prop :=
  ∃ s, adjacency[i]? = some s ∧ j ∈ s.members

/-- Adds a neighbour to a vertex. -/
def link (adjacency : List IndexSet) (i j : Nat) : List IndexSet :=
  adjacency.modify i (·.insert j)

theorem joined_link {adjacency : List IndexSet} {i j a b : Nat} (hi : i < adjacency.length) :
    Joined (link adjacency i j) a b ↔ Joined adjacency a b ∨ (a = i ∧ b = j) := by
  unfold Joined link
  rw [List.getElem?_modify]
  by_cases h : i = a
  · subst h
    simp [List.getElem?_eq_getElem hi, or_comm]
  · have h' : a ≠ i := fun e => h e.symm
    simp [h, h']

@[simp] theorem length_link {adjacency : List IndexSet} {i j : Nat} :
    (link adjacency i j).length = adjacency.length := by
  simp [link]

end Adjacency

/-- An undirected graph without loops. -/
structure Graph where
  /-- The neighbours of each vertex. -/
  adjacency : List IndexSet
  /-- The number of edges. -/
  edgeCount : Nat
  symmetric : ∀ i j, Adjacency.Joined adjacency i j → Adjacency.Joined adjacency j i
  irreflexive : ∀ i, ¬ Adjacency.Joined adjacency i i

namespace Graph

/-- The number of vertices. -/
def size (g : Graph) : Nat := g.adjacency.length

/-- Whether there are no vertices. -/
def isEmpty (g : Graph) : Bool := g.adjacency.isEmpty

/-- The neighbours of a vertex; none for an index that is no vertex. -/
def neighbors (g : Graph) (i : Nat) : IndexSet := g.adjacency[i]?.getD (.empty g.size)

/-- The number of neighbours of a vertex. -/
def degree (g : Graph) (i : Nat) : Nat := (g.neighbors i).size

/-- Whether an edge joins two vertices. -/
def adjacent (g : Graph) (i j : Nat) : Bool := (g.neighbors i).contains j

theorem adjacent_iff {g : Graph} {i j : Nat} :
    g.adjacent i j = true ↔ Adjacency.Joined g.adjacency i j := by
  unfold adjacent neighbors Adjacency.Joined
  cases g.adjacency[i]? <;> simp [IndexSet.empty]

theorem adjacent_comm {g : Graph} {i j : Nat} : g.adjacent i j = g.adjacent j i := by
  rw [Bool.eq_iff_iff, adjacent_iff, adjacent_iff]
  exact ⟨g.symmetric i j, g.symmetric j i⟩

theorem adjacent_self {g : Graph} {i : Nat} : g.adjacent i i = false := by
  rw [← Bool.not_eq_true, adjacent_iff]
  exact g.irreflexive i

/-! ## Building -/

theorem not_joined_replicate {n i j : Nat} :
    ¬ Adjacency.Joined (List.replicate n (IndexSet.empty n)) i j := by
  rintro ⟨s, hs, hj⟩
  obtain rfl := List.eq_of_mem_replicate (List.mem_of_getElem? hs)
  exact absurd hj List.not_mem_nil

/-- The graph with so many vertices and no edges. -/
def edgeless (n : Nat) : Graph where
  adjacency := List.replicate n (.empty n)
  edgeCount := 0
  symmetric := fun _ _ h => absurd h not_joined_replicate
  irreflexive := fun _ => not_joined_replicate

/-- Joins two different vertices. -/
def join (g : Graph) (i j : Nat) (hi : i < g.size) (hj : j < g.size) (hne : i ≠ j) : Graph where
  adjacency := Adjacency.link (Adjacency.link g.adjacency i j) j i
  edgeCount := g.edgeCount + 1
  symmetric := fun a b h => by
    rw [Adjacency.joined_link (by simpa [size] using hj), Adjacency.joined_link hi] at h ⊢
    rcases h with (h | h) | h
    · exact .inl (.inl (g.symmetric _ _ h))
    · exact .inr ⟨h.2, h.1⟩
    · exact .inl (.inr ⟨h.2, h.1⟩)
  irreflexive := fun a h => by
    rw [Adjacency.joined_link (by simpa [size] using hj), Adjacency.joined_link hi] at h
    rcases h with (h | h) | h
    · exact g.irreflexive _ h
    · exact hne (h.1.symm.trans h.2)
    · exact hne (h.2.symm.trans h.1)

/-- Adds an edge.  An edge that is there already, a loop, and an edge to an index that is no vertex
change nothing. -/
def addEdge (g : Graph) (edge : Nat × Nat) : Graph :=
  if h : edge.1 < g.size ∧ edge.2 < g.size ∧ edge.1 ≠ edge.2 then
    if g.adjacent edge.1 edge.2 then g else g.join edge.1 edge.2 h.1 h.2.1 h.2.2
  else g

/-- The graph with so many vertices and the given edges. -/
def ofEdges (n : Nat) (edges : List (Nat × Nat)) : Graph := edges.foldl addEdge (edgeless n)

/-- Whether an edge is a loop or joins two of the first `n` indices. -/
def isWithin (n : Nat) (edge : Nat × Nat) : Bool :=
  edge.1 == edge.2 || decide (edge.1 < n ∧ edge.2 < n)

/-- The graph with so many vertices and the given edges, provided they join vertices. -/
def ofEdges? (n : Nat) (edges : List (Nat × Nat)) : Option Graph :=
  if edges.all (isWithin n) then some (ofEdges n edges) else none

/-! ## Cliques -/

/-- The vertices outside a set that are neighbours of all its members; none for the empty set. -/
def commonNeighbors (g : Graph) (s : IndexSet) : IndexSet :=
  match s.members with
  | [] => .empty g.size
  | i :: rest => (rest.foldl (fun common j => common.inter (g.neighbors j)) (g.neighbors i)).diff s

/-- Whether any two members of a set are neighbours. -/
def isClique (g : Graph) (s : IndexSet) : Bool :=
  s.members.all fun i => (s.remove i).isSubset (g.neighbors i)

end Graph

end Ensemble
