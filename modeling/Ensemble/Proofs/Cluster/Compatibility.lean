import Ensemble.Proofs.Clique.Graph
import Ensemble.Proofs.Cluster.Sets
import Ensemble.Proofs.Condition.Symmetry
import Ensemble.Proofs.Pairing.Pairs

/-!
# The graph of compatible pairs

Building the graph compares each pair of items once, in one order.  As the order does not matter,
the graph says which items are compatible, and its cliques are the sets of items of which any two
are.
-/

namespace Ensemble

namespace ClusterFinder

variable {finder : ClusterFinder} {g : Graph} {s : IndexSet} {i j : Nat} {a b : Item}

/-- The items of a catalog satisfy its schema, so comparing them validates nothing anew. -/
theorem isCompatible_eq_passes (ha : a ∈ finder.catalog.items) (hb : b ∈ finder.catalog.items) :
    finder.matcher.isCompatible a b = finder.matcher.passes a b := by
  unfold Matcher.isCompatible Matcher.validatePair
  rw [finder.schema_eq, finder.catalog.valid a ha, finder.catalog.valid b hb]
  rfl

/-! ## The graph -/

/-- A graph on the positions in the catalog that says which items are compatible. -/
structure Depicts (finder : ClusterFinder) (g : Graph) : Prop where
  size : g.size = finder.catalog.size
  passes : ∀ {i j a b}, finder.catalog.items[i]? = some a → finder.catalog.items[j]? = some b →
    i ≠ j → finder.matcher.passes a b = .ok (g.adjacent i j)

/-- The graph joins the pairs that pass. -/
theorem graph_eq_ofEdges (finder : ClusterFinder) :
    finder.graph = do
      let pairs ← (pairsOf finder.catalog.items.zipIdx).filterM fun p =>
        finder.matcher.passes p.1.1 p.2.1
      return .ofEdges finder.catalog.size (pairs.map fun p => (p.1.2, p.2.2)) := by
  unfold graph Graph.ofEdges
  simp only [List.foldl_map]
  exact foldlM_select (fun p : (Item × Nat) × (Item × Nat) => finder.matcher.passes p.1.1 p.2.1)
    (fun (g : Graph) p => g.addEdge (p.1.2, p.2.2)) _ _

/-- The edges of the graph are the pairs that pass, in catalog order. -/
theorem exists_edges (h : finder.graph = .ok g) :
    ∃ edges, g = .ofEdges finder.catalog.size edges ∧ (∀ i j, (i, j) ∈ edges → i < j) ∧
      ∀ i j a b, finder.catalog.items[i]? = some a → finder.catalog.items[j]? = some b → i < j →
        ∃ v, finder.matcher.passes a b = .ok v ∧ ((i, j) ∈ edges ↔ v = true) := by
  rw [graph_eq_ofEdges] at h
  obtain ⟨pairs, hpairs, h⟩ := bind_eq_ok_iff.1 h
  obtain ⟨hall, rfl⟩ := filterM_eq_ok_iff.1 hpairs
  refine ⟨_, (Except.ok.inj h).symm, fun i j hij => ?_, fun i j a b ha hb hij => ?_⟩
  · simp only [List.mem_map, List.mem_filter, Prod.exists, Prod.mk.injEq, mem_pairsOf_zipIdx] at hij
    obtain ⟨_, _, _, _, ⟨⟨hlt, -, -⟩, -⟩, rfl, rfl⟩ := hij
    exact hlt
  · obtain ⟨v, hv⟩ := hall ((a, i), (b, j)) (mem_pairsOf_zipIdx.2 ⟨hij, ha, hb⟩)
    refine ⟨v, hv, ?_⟩
    simp only [List.mem_map, List.mem_filter, Prod.exists, Prod.mk.injEq, mem_pairsOf_zipIdx]
    constructor
    · rintro ⟨a', _, b', _, ⟨⟨-, ha', hb'⟩, hpass⟩, rfl, rfl⟩
      obtain rfl := Option.some.inj (ha.symm.trans ha')
      obtain rfl := Option.some.inj (hb.symm.trans hb')
      exact Except.ok.inj (hv.symm.trans (toOption_beq_some_iff.1 hpass))
    · rintro rfl
      refine ⟨a, i, b, j, ⟨⟨hij, ha, hb⟩, ?_⟩, rfl, rfl⟩
      rw [hv]
      rfl

/-- The graph depicts the catalog, if it can be built. -/
theorem depicts_of_graph (h : finder.graph = .ok g) : finder.Depicts g := by
  obtain ⟨edges, rfl, hlt, hpass⟩ := exists_edges h
  have passes_of_lt : ∀ {i j a b}, finder.catalog.items[i]? = some a →
      finder.catalog.items[j]? = some b → i < j →
      finder.matcher.passes a b = .ok ((Graph.ofEdges finder.catalog.size edges).adjacent i j) := by
    intro i j a b ha hb hij
    have hi : i < finder.catalog.size := (List.getElem?_eq_some_iff.1 ha).1
    have hj : j < finder.catalog.size := (List.getElem?_eq_some_iff.1 hb).1
    have hback : (j, i) ∉ edges := fun hmem => by
      have := hlt j i hmem
      omega
    obtain ⟨v, hv, hedge⟩ := hpass i j a b ha hb hij
    rw [hv, Except.ok.injEq, Bool.eq_iff_iff, Graph.adjacent_ofEdges, ← hedge]
    simp [hi, hj, hback, Nat.ne_of_lt hij]
  refine ⟨Graph.size_ofEdges .., fun {i j a b} ha hb hne => ?_⟩
  rcases Nat.lt_or_gt_of_ne hne with hij | hji
  · exact passes_of_lt ha hb hij
  · rw [Graph.adjacent_comm]
    exact finder.matcher.passes_swap.1 (passes_of_lt hb ha hji)

/-! ## Cliques -/

theorem Depicts.adjacent_iff (hg : finder.Depicts g) (ha : finder.catalog.items[i]? = some a)
    (hb : finder.catalog.items[j]? = some b) (hne : i ≠ j) :
    g.adjacent i j = true ↔ finder.matcher.passes a b = .ok true := by
  rw [hg.passes ha hb hne, Except.ok.injEq]

/-- The cliques are the sets of items that go together in pairs. -/
theorem Depicts.clique_iff (hg : finder.Depicts g) (hs : finder.Selection s) :
    s.members.Pairwise (g.adjacent · ·) ↔
      (finder.members s).Pairwise fun a b => finder.matcher.passes a b = .ok true := by
  rw [pairwise_members]
  constructor
  · intro h
    refine (h.and s.ascending).imp fun ⟨hadj, hlt⟩ a ha b hb => ?_
    exact (hg.adjacent_iff ha hb (by omega)).1 hadj
  · intro h
    have hbelow : s.members.Pairwise fun i j => i < finder.catalog.size ∧ j < finder.catalog.size :=
      List.pairwise_of_forall_mem_list fun i hi j hj => ⟨hs.within i hi, hs.within j hj⟩
    refine (h.and (s.ascending.and hbelow)).imp fun ⟨hpass, hlt, hi, hj⟩ => ?_
    obtain ⟨a, ha⟩ := getElem?_of_lt hi
    obtain ⟨b, hb⟩ := getElem?_of_lt hj
    exact (hg.adjacent_iff ha hb (by omega)).2 (hpass a ha b hb)

end ClusterFinder

end Ensemble
