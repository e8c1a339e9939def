import Ensemble.Proofs.Cluster.Listing
import Ensemble.Proofs.Cluster.Safety

/-!
# The matrix and the graph of a catalog

The matrix of a catalog compares its pairs in full, and the graph of compatible pairs in the short
way.  Under the same rules an edge joins two positions if and only if the result for their items says
that they are compatible, and there are as many edges as compatible pairs.
-/

namespace Ensemble

theorem Matcher.passes_congr {matcher other : Matcher} (h : matcher.rules = other.rules)
    (a b : Item) : matcher.passes a b = other.passes a b := by
  unfold passes
  rw [h]

/-- The result for two ids has the verdict of the short way, also in the other order. -/
theorem Matrix.Tabulates.exists_verdict {m : Matrix} {matcher : Matcher} {catalog : Catalog}
    (h : m.Tabulates matcher catalog) {i j : Nat} {a b : Item}
    (ha : catalog.items[i]? = some a) (hb : catalog.items[j]? = some b) (hne : i ≠ j) :
    ∃ r, m.get? a.id b.id = some r ∧ matcher.passes a b = .ok r.compatible := by
  rcases Nat.lt_or_gt_of_ne hne with hij | hji
  · obtain ⟨r, hr, hfound, -⟩ := h.get? i j a b hij ha hb
    obtain ⟨_, -, hcompare⟩ := bind_eq_ok_iff.1 hr
    exact ⟨r, hfound, Matcher.passes_of_compare hcompare⟩
  · obtain ⟨r, hr, -, hfound⟩ := h.get? j i b a hji hb ha
    obtain ⟨_, -, hcompare⟩ := bind_eq_ok_iff.1 hr
    exact ⟨r, hfound, matcher.passes_swap.1 (Matcher.passes_of_compare hcompare)⟩

namespace ClusterFinder

variable {finder : ClusterFinder} {g : Graph} {matcher : Matcher} {m : Matrix}

/-! ## Edges -/

/-- An edge says that the result for two items is compatible. -/
theorem adjacent_iff_compatible (hg : finder.Depicts g) (hm : m.Tabulates matcher finder.catalog)
    (hrules : finder.matcher.rules = matcher.rules) (i j : Nat) :
    g.adjacent i j = true ↔ i ≠ j ∧ ∃ a b r, finder.catalog.items[i]? = some a ∧
      finder.catalog.items[j]? = some b ∧ m.get? a.id b.id = some r ∧ r.compatible = true := by
  have hverdict : ∀ {a b}, finder.catalog.items[i]? = some a → finder.catalog.items[j]? = some b →
      i ≠ j → ∃ r, m.get? a.id b.id = some r ∧ r.compatible = g.adjacent i j := by
    intro a b ha hb hne
    obtain ⟨r, hfound, hpass⟩ := hm.exists_verdict ha hb hne
    rw [← Matcher.passes_congr hrules, hg.passes ha hb hne] at hpass
    exact ⟨r, hfound, (Except.ok.inj hpass).symm⟩
  constructor
  · intro hadj
    obtain ⟨hi, hj⟩ := Graph.adjacent_lt hadj
    have hne : i ≠ j := by
      rintro rfl
      rw [Graph.adjacent_self] at hadj
      cases hadj
    obtain ⟨a, ha⟩ := getElem?_of_lt (hg.size ▸ hi)
    obtain ⟨b, hb⟩ := getElem?_of_lt (hg.size ▸ hj)
    obtain ⟨r, hfound, hr⟩ := hverdict ha hb hne
    exact ⟨hne, a, b, r, ha, hb, hfound, hr.trans hadj⟩
  · rintro ⟨hne, a, b, r, ha, hb, hfound, hcompatible⟩
    obtain ⟨r', hfound', hr⟩ := hverdict ha hb hne
    obtain rfl := Option.some.inj (hfound.symm.trans hfound')
    exact hr.symm.trans hcompatible

/-! ## Counting -/

/-- The graph has one edge for each pair that passes. -/
theorem edgeCount_of_graph (h : finder.graph = .ok g) :
    g.edgeCount = ((pairsOf finder.catalog.items).filter fun p =>
      (finder.matcher.passes p.1 p.2).toOption == some true).length := by
  rw [graph_eq_ofEdges] at h
  obtain ⟨pairs, hpairs, h⟩ := bind_eq_ok_iff.1 h
  obtain ⟨-, rfl⟩ := filterM_eq_ok_iff.1 hpairs
  obtain rfl := Except.ok.inj h
  have hsub := (List.filter_sublist (p := fun p : (Item × Nat) × (Item × Nat) =>
    (finder.matcher.passes p.1.1 p.2.1).toOption == some true)
    (l := pairsOf finder.catalog.items.zipIdx)).map fun p => (p.1.2, p.2.2)
  rw [positions_pairsOf_zipIdx] at hsub
  rw [Graph.edgeCount_ofEdges]
  · rw [List.length_map, ← elements_pairsOf_zipIdx finder.catalog.items, List.filter_map,
      List.length_map]
    rfl
  · exact (nodup_positionPairs _).sublist hsub
  · intro i j hij
    exact mem_positionPairs.1 (hsub.subset hij)

/-- As many pairs pass as there are compatible results. -/
theorem length_filter_passes {catalog : Catalog} {results : List PairResult}
    (h : (pairsOf catalog.items).mapM (fun p => matcher.compare 0 p.1 p.2) = .ok results) :
    (results.filter (·.compatible)).length = ((pairsOf catalog.items).filter fun p =>
      (matcher.passes p.1 p.2).toOption == some true).length := by
  refine length_filter_of_mapM h fun p r hr => ?_
  rw [Matcher.passes_of_compare hr]
  cases r.compatible <;> rfl

/-- With a clock that stands still, the matrix of a catalog whose items satisfy the schema of the
matcher is the table of the results for its pairs, and the graph under the same rules has an edge
for each compatible result. -/
theorem matrix_agrees {catalog : Catalog} (hstill : matcher.clock.Still)
    (hvalid : ∀ a ∈ catalog.items, matcher.schema.validate a = .ok ()) :
    ∃ m, matcher.matrix catalog = .ok m ∧ m.Tabulates matcher catalog ∧
      ∀ finder : ClusterFinder, finder.catalog = catalog → finder.matcher.rules = matcher.rules →
        ∃ g, finder.graph = .ok g ∧
          (∀ i j, g.adjacent i j = true ↔ i ≠ j ∧ ∃ a b r, catalog.items[i]? = some a ∧
            catalog.items[j]? = some b ∧ m.get? a.id b.id = some r ∧ r.compatible = true) ∧
          g.edgeCount = m.compatible := by
  obtain ⟨results, hresults, hmatrix⟩ := Matcher.exists_results hvalid
  rw [Matcher.stamped_of_compare hstill hresults] at hmatrix
  have htable := Matrix.tabulates_ofResults hresults hvalid
  refine ⟨_, hmatrix, htable, ?_⟩
  rintro finder rfl hrules
  obtain ⟨g, hgraph⟩ := finder.exists_graph
  refine ⟨g, hgraph, adjacent_iff_compatible (depicts_of_graph hgraph) htable hrules, ?_⟩
  rw [edgeCount_of_graph hgraph]
  simp only [Matcher.passes_congr hrules]
  exact (length_filter_passes hresults).symm

/-- The rules of the wardrobe under another schema, which allows further attributes. -/
def lenient : Matcher where
  rules := wardrobe.matcher.rules
  schema := ⟨"clothes", "1", [⟨"colour", .string, false⟩], .allow, by decide⟩
  clock := Clock.source ⟨0⟩
  bound := by decide +kernel

theorem matrix_agrees_wardrobe :
    lenient.clock.Still ∧ (∀ a ∈ wardrobe.catalog.items, lenient.schema.validate a = .ok ()) ∧
    ∃ m, lenient.matrix wardrobe.catalog = .ok m ∧ m.Tabulates lenient wardrobe.catalog ∧
      ∃ g, wardrobe.graph = .ok g ∧ g.edgeCount = m.compatible := by
  have hvalid : ∀ a ∈ wardrobe.catalog.items, lenient.schema.validate a = .ok () := by
    decide +kernel
  have hstill : lenient.clock.Still := Clock.still_source ⟨0⟩
  obtain ⟨m, hm, htable, hfinder⟩ := matrix_agrees hstill hvalid
  obtain ⟨g, hg, -, hcount⟩ := hfinder wardrobe rfl rfl
  exact ⟨hstill, hvalid, m, hm, htable, g, hg, hcount⟩

end ClusterFinder

end Ensemble
