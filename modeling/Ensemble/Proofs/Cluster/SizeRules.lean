import Ensemble.Proofs.Cluster.InsertionOrder

/-!
# Sizes as limits and as rules

The sizes that clusters may have can be asked for, or they can be stated as the first rules of the
cluster rules.  In the one case the search does not extend a set beyond the greatest size and drops
branches that cannot reach the least one; in the other it visits every clique and the rules reject
those of the wrong sizes before any other rule is tried.  Both ways give the same clusters, and the
same error where a rule cannot judge a set.
-/

namespace Ensemble

/-! ## Rules about sizes -/

/-- What a rule about the least and one about the greatest size say about a set of so many
members. -/
def sizeEvaluations (least greatest : Rule SetOperator) (m M size : Nat) : List RuleEvaluation :=
  [⟨least.name, m ≤ size, "size " ++ toString size ++ ", minimum " ++ toString m⟩,
    ⟨greatest.name, size ≤ M, "size " ++ toString size ++ ", maximum " ++ toString M⟩]

/-- The second record is that of the same set, and says first that the set has an allowed size. -/
structure Cluster.AddsSizes (c : Cluster) (least greatest : Rule SetOperator) (m M : Nat)
    (d : Cluster) : Prop where
  itemIds : d.itemIds = c.itemIds
  size : d.size = c.size
  isMaximum : d.isMaximum = c.isMaximum
  evaluations : d.evaluations = sizeEvaluations least greatest m M c.size ++ c.evaluations

/-- The second analysis lists the same clusters, with records that say first that the sets have an
allowed size. -/
structure ClusterAnalysis.AddsSizes (analysis : ClusterAnalysis) (least greatest : Rule SetOperator)
    (m M : Nat) (other : ClusterAnalysis) : Prop where
  clusters : List.Forall₂ (fun c d : Cluster => c.AddsSizes least greatest m M d)
    analysis.clusters other.clusters
  relationships : other.relationships = analysis.relationships
  totals : other.totals = analysis.totals

section

variable {least greatest : Rule SetOperator} {items : List Item} {m M : Nat}

theorem evaluate_minSize (h : least.condition = .leaf (.minClusterSize m)) :
    least.evaluate items = .ok ⟨least.name, m ≤ items.length,
      "size " ++ toString items.length ++ ", minimum " ++ toString m⟩ := by
  unfold Rule.evaluate
  rw [h]
  rfl

theorem evaluate_maxSize (h : greatest.condition = .leaf (.maxClusterSize M)) :
    greatest.evaluate items = .ok ⟨greatest.name, items.length ≤ M,
      "size " ++ toString items.length ++ ", maximum " ++ toString M⟩ := by
  unfold Rule.evaluate
  rw [h]
  rfl

end

namespace ClusterFinder

variable {f f' : ClusterFinder} {least greatest : Rule SetOperator} {m M : Nat} {g : Graph}
  {s : IndexSet} {c d : Cluster}

/-- The first finder is asked for sizes that the rules of the second begin with.  The second is
asked for sets of any size. -/
structure StatesSizes (f f' : ClusterFinder) (least greatest : Rule SetOperator) (m M : Nat) :
    Prop where
  catalog : f'.catalog = f.catalog
  pairRules : f'.matcher.rules = f.matcher.rules
  rules : f'.rules.rules = least :: greatest :: f.rules.rules
  least : least.condition = .leaf (.minClusterSize m)
  greatest : greatest.condition = .leaf (.maxClusterSize M)
  bounds : f.sizeBounds = .ok (m, M)
  bounds' : f'.sizeBounds = .ok (1, f'.catalog.size)

namespace StatesSizes

/-! ## Sets of items -/

theorem members (h : StatesSizes f f' least greatest m M) (s : IndexSet) :
    f'.members s = f.members s := by
  unfold ClusterFinder.members
  rw [h.catalog]

theorem sortedIds (h : StatesSizes f f' least greatest m M) (s : IndexSet) :
    f'.sortedIds s = f.sortedIds s := by
  unfold ClusterFinder.sortedIds
  rw [h.members]

theorem sortSets (h : StatesSizes f f' least greatest m M) (sets : List IndexSet) :
    f'.sortSets sets = f.sortSets sets := by
  unfold ClusterFinder.sortSets
  simp only [h.sortedIds]

theorem selection_iff (h : StatesSizes f f' least greatest m M) :
    f'.Selection s ↔ f.Selection s := by
  constructor
  · rintro ⟨hcap, hwithin⟩
    rw [h.catalog] at hcap hwithin
    exact ⟨hcap, hwithin⟩
  · rintro ⟨hcap, hwithin⟩
    rw [← h.catalog] at hcap hwithin
    exact ⟨hcap, hwithin⟩

theorem graph (h : StatesSizes f f' least greatest m M) : f'.graph = f.graph := by
  unfold ClusterFinder.graph
  rw [h.catalog]
  simp only [Matcher.passes_congr h.pairRules]

/-! ## Tests -/

/-- The rules about sizes come first, so no other rule is tried on a set of the wrong size. -/
theorem passes (h : StatesSizes f f' least greatest m M) (hs : f.Selection s) :
    f'.passes s = if m ≤ s.size ∧ s.size ≤ M then f.passes s else .ok false := by
  unfold ClusterFinder.passes ClusterFinder.describe RuleSet.passes
  rw [h.rules, h.members, h.sortedIds, RuleSet.passesAll, evaluate_minSize h.least, ok_bind,
    RuleSet.passesAll, evaluate_maxSize h.greatest, ok_bind, hs.length_members]
  by_cases hle : m ≤ s.size
  · by_cases hmax : s.size ≤ M
    · simp only [hle, hmax, decide_true, and_self, ↓reduceIte]
    · simp [hle, hmax, pure_eq_ok, Except.mapError]
  · simp [hle, pure_eq_ok, Except.mapError]

theorem evaluateRules (h : StatesSizes f f' least greatest m M) (hs : f.Selection s)
    {evaluations : List RuleEvaluation}
    (heval : f.rules.evaluate (f.members s) = .ok evaluations) :
    f'.rules.evaluate (f'.members s)
      = .ok (sizeEvaluations least greatest m M s.size ++ evaluations) := by
  rw [RuleSet.evaluate_eq_ok_iff, h.rules, h.members]
  refine .cons ?_ (.cons ?_ (RuleSet.evaluate_eq_ok_iff.1 heval))
  · rw [evaluate_minSize h.least, hs.length_members]
  · rw [evaluate_maxSize h.greatest, hs.length_members]

theorem wants (h : StatesSizes f f' least greatest m M) (hs : f.Selection s) (hpos : 1 ≤ s.size) :
    f'.wants 1 s = if m ≤ s.size ∧ s.size ≤ M then f.passes s else .ok false := by
  have hbound : s.size ≥ Nat.max 1 1 := hpos
  unfold ClusterFinder.wants
  rw [if_pos hbound, h.passes hs]

theorem passes_iff (h : StatesSizes f f' least greatest m M) (hs : f.Selection s) :
    f'.passes s = .ok true ↔ (m ≤ s.size ∧ s.size ≤ M) ∧ f.passes s = .ok true := by
  rw [h.passes hs]
  split <;> simp [*]

/-- The same sets are wanted. -/
theorem wanted_iff (h : StatesSizes f f' least greatest m M) :
    f'.Wanted g 1 f'.catalog.size s ↔ f.Wanted g m M s := by
  have hm : 1 ≤ m := one_le_of_sizeBounds h.bounds
  constructor
  · rintro ⟨hs, hadj, -, -, hpass⟩
    have hs := h.selection_iff.1 hs
    obtain ⟨⟨hle, hmax⟩, hpass⟩ := (h.passes_iff hs).1 hpass
    exact ⟨hs, hadj, hle, hmax, hpass⟩
  · rintro ⟨hs, hadj, hle, hmax, hpass⟩
    have hs' := h.selection_iff.2 hs
    exact ⟨hs', hadj, by omega, hs'.size_le, (h.passes_iff hs).2 ⟨⟨hle, hmax⟩, hpass⟩⟩

/-! ## Searches -/

/-- Of the sets of the right sizes, both searches visit the same, in the same order. -/
theorem filter_nodes (h : StatesSizes f f' least greatest m M) (hg : f.Depicts g) :
    (f'.nodes g 1 f'.catalog.size).filter (fun s => m ≤ s.size ∧ s.size ≤ M)
      = (f.nodes g m M).filter (fun s => m ≤ s.size ∧ s.size ≤ M) := by
  have hm : 1 ≤ m := one_le_of_sizeBounds h.bounds
  have hg' : g.size = f'.catalog.size := by rw [h.catalog, hg.size]
  have : Std.Irrefl fun a b : IndexSet => a.members < b.members :=
    ⟨fun a hlt => List.lt_irrefl _ hlt⟩
  have : Std.Antisymm fun a b : IndexSet => a.members < b.members :=
    ⟨fun a b hlt hgt => absurd hgt (List.lt_asymm hlt)⟩
  refine (Search.pairwise_allNodes.filter _).eq_of_mem_iff (Search.pairwise_allNodes.filter _) ?_
  intro s
  rw [List.mem_filter, List.mem_filter, decide_eq_true_iff]
  apply and_congr_left
  rintro ⟨hle, hmax⟩
  refine (mem_nodes_iff hg' ?_).trans ((mem_nodes_iff hg.size ?_).trans ?_).symm
  · show max 1 1 ≤ s.size
    omega
  · show max m 1 ≤ s.size
    omega
  · rw [← h.selection_iff]
    apply and_congr_right
    intro hs
    simp only [hmax, hs.size_le]

/-- Both searches test the sets of the right sizes in the same way, and find no others. -/
theorem filterM_nodes (h : StatesSizes f f' least greatest m M) (hg : f.Depicts g) :
    (f'.nodes g 1 f'.catalog.size).filterM (f'.wants 1)
      = (f.nodes g m M).filterM (f.wants m) := by
  have hm : 1 ≤ m := one_le_of_sizeBounds h.bounds
  have hbound : Nat.max m 1 = m := Nat.max_eq_left hm
  have hg' : g.size = f'.catalog.size := by rw [h.catalog, hg.size]
  have hselection : ∀ s ∈ f'.nodes g 1 f'.catalog.size, 1 ≤ s.size → f.Selection s :=
    fun s hs hpos => h.selection_iff.1 ((mem_nodes_iff hg' hpos).1 hs).1
  rw [← filterM_filter (q := fun s => m ≤ s.size ∧ s.size ≤ M),
    ← filterM_filter (p := f.wants m) (q := fun s => m ≤ s.size ∧ s.size ≤ M), ← h.filter_nodes hg]
  · apply filterM_congr
    intro s hs
    obtain ⟨hs, hallowed⟩ := List.mem_filter.1 hs
    have hallowed := of_decide_eq_true hallowed
    have hpos : 1 ≤ s.size := by omega
    rw [h.wants (hselection s hs hpos) hpos, if_pos hallowed, ClusterFinder.wants, hbound,
      if_pos hallowed.1]
  · -- The search that is asked for sizes visits other sets on its way to larger ones only.
    intro s hs hout
    have hout := of_decide_eq_false hout
    rw [ClusterFinder.wants, hbound]
    apply if_neg
    intro hle
    exact hout ⟨hle, ((mem_nodes_iff hg.size (hbound.trans_le hle)).1 hs).2.2⟩
  · intro s hs hout
    have hout := of_decide_eq_false hout
    by_cases hpos : 1 ≤ s.size
    · rw [h.wants (hselection s hs hpos) hpos, if_neg hout]
      rfl
    · rw [ClusterFinder.wants]
      exact if_neg hpos

/-! ## Analyses -/

theorem addsSizes_of_clusterOf (h : StatesSizes f f' least greatest m M) (hg : f.Depicts g)
    (hg' : f'.Depicts g) (hs : f.Wanted g m M s) (hc : f.clusterOf g M s = .ok c)
    (hd : f'.clusterOf g f'.catalog.size s = .ok d) : c.AddsSizes least greatest m M d := by
  have hm : 1 ≤ m := one_le_of_sizeBounds h.bounds
  have hmaximum : d.isMaximum = c.isMaximum := by
    rw [Bool.eq_iff_iff, isMaximum_of_clusterOf hs hm hg hc,
      isMaximum_of_clusterOf (h.wanted_iff.2 hs) le_rfl hg' hd]
    simp only [h.wanted_iff]
  obtain ⟨evaluations, _, heval, -, rfl⟩ := clusterOf_eq_ok_iff.1 hc
  obtain ⟨evaluations', _, heval', -, rfl⟩ := clusterOf_eq_ok_iff.1 hd
  rw [h.evaluateRules hs.selection heval, Except.ok.injEq] at heval'
  exact {
    itemIds := h.sortedIds s
    size := rfl
    isMaximum := hmaximum
    evaluations := heval'.symm }

theorem error_or_addsSizes (h : StatesSizes f f' least greatest m M)
    (hcap : f.config.maxClusters = none) (hcap' : f'.config.maxClusters = none) :
    (∃ e, f.analyze = .error e ∧ f'.analyze = .error e) ∨
    ∃ A B, f.analyze = .ok A ∧ f'.analyze = .ok B ∧ A.AddsSizes least greatest m M B := by
  have hm : 1 ≤ m := one_le_of_sizeBounds h.bounds
  obtain ⟨g, hgraph⟩ := f.exists_graph
  have hgraph' : f'.graph = .ok g := h.graph.trans hgraph
  have hg := depicts_of_graph hgraph
  have hg' := depicts_of_graph hgraph'
  have htests := h.filterM_nodes hg
  cases hfound : (f.nodes g m M).filterM (f.wants m) with
  | error e =>
    left
    rw [hfound] at htests
    have hsearch : (f.search g m M .never).run.run' 0 = .error e := by
      rw [run'_search_never, hfound, error_bind]
    have hsearch' : (f'.search g 1 f'.catalog.size .never).run.run' 0 = .error e := by
      rw [run'_search_never, htests, error_bind]
    exact ⟨e, analyzeWith_of_search_error h.bounds hgraph hsearch,
      analyzeWith_of_search_error h.bounds' hgraph' hsearch'⟩
  | ok found =>
    right
    rw [hfound] at htests
    have hsearch : (f.search g m M .never).run.run' 0
        = .ok ⟨found, (f.nodes g m M).length, false⟩ := by
      rw [run'_search_never, hfound, ok_bind, pure_eq_ok]
    have hsearch' : (f'.search g 1 f'.catalog.size .never).run.run' 0
        = .ok ⟨found, (f'.nodes g 1 f'.catalog.size).length, false⟩ := by
      rw [run'_search_never, htests, ok_bind, pure_eq_ok]
    obtain ⟨clusters, hclusters⟩ := exists_records hg hm hsearch
    obtain ⟨clusters', hclusters'⟩ := exists_records hg' le_rfl hsearch'
    have hA := (analyzeWith_eq_ok_iff_of_uncapped hcap).2
      ⟨m, M, g, _, clusters, h.bounds, hgraph, hsearch, hclusters, rfl⟩
    have hB := (analyzeWith_eq_ok_iff_of_uncapped hcap').2
      ⟨1, f'.catalog.size, g, _, clusters', h.bounds', hgraph', hsearch', hclusters', rfl⟩
    refine ⟨_, _, hA, hB, ?_⟩
    rw [h.sortSets] at hclusters'
    exact {
      clusters := by
        apply forall₂_of_mapM hclusters hclusters'
        intro s hs c d hc hd
        have hmem : s ∈ found := (f.sortSets_perm found).subset hs
        have hwanted := ((found_of_search hg hm hsearch).2.2 s).1 hmem
        exact h.addsSizes_of_clusterOf hg hg' hwanted hc hd
      relationships := by simp only [h.sortSets]
      totals := by simp only [h.sortSets, h.catalog] }

end StatesSizes

theorem sizeBounds_of_config {cap : Option Nat} (h : f.config = ⟨cap, some m, some M⟩)
    (hm : 1 ≤ m) (hM : m ≤ M) : f.sizeBounds = .ok (m, M) := by
  have hsizes : checkSizes (some m) (some M) = .ok () := if_neg (Nat.not_lt.2 hM)
  have hmax : Nat.max m 1 = m := Nat.max_eq_left hm
  unfold ClusterFinder.sizeBounds
  rw [h]
  show (checkSizes (some m) (some M) >>= fun _ => .ok (Nat.max m 1, M)) = _
  rw [hsizes, ok_bind, hmax]

/-- Asking for sizes gives the same as stating them as the first rules and asking for sets of any
size: the same error, or the same clusters, where the records of the one analysis have the two
evaluations of sizes before those of the other. -/
theorem size_limits_as_rules {catalog : Catalog} {pairRules : PairRules}
    {rules rules' : ClusterRules} (hm : 1 ≤ m) (hM : m ≤ M) (hn : 1 ≤ catalog.size)
    (hleast : least.condition = .leaf (.minClusterSize m))
    (hgreatest : greatest.condition = .leaf (.maxClusterSize M))
    (hrules : rules'.rules = least :: greatest :: rules.rules)
    (hf : ClusterFinder.bind catalog pairRules rules ⟨none, some m, some M⟩ = .ok f)
    (hf' : ClusterFinder.bind catalog pairRules rules' ⟨none, some 1, some catalog.size⟩
      = .ok f') :
    (∃ e, f.analyze = .error e ∧ f'.analyze = .error e) ∨
    ∃ A B, f.analyze = .ok A ∧ f'.analyze = .ok B ∧ A.AddsSizes least greatest m M B := by
  obtain ⟨hc, hp, hr, hconfig⟩ := parts_of_bind hf
  obtain ⟨hc', hp', hr', hconfig'⟩ := parts_of_bind hf'
  have h : StatesSizes f f' least greatest m M := {
    catalog := hc'.trans hc.symm
    pairRules := hp'.trans hp.symm
    rules := by rw [hr, hr', hrules]
    least := hleast
    greatest := hgreatest
    bounds := sizeBounds_of_config hconfig hm hM
    bounds' := by
      rw [← hc'] at hn hconfig'
      exact sizeBounds_of_config hconfig' le_rfl hn }
  apply h.error_or_addsSizes
  · rw [hconfig]
  · rw [hconfig']

/-- The rules of the wardrobe with the rules that an outfit has two garments before them. -/
def pairsOnly : ClusterRules where
  name := "pairs"
  rules := ⟨"least", none, .leaf (.minClusterSize 2)⟩
    :: ⟨"greatest", none, .leaf (.maxClusterSize 2)⟩ :: wardrobe.rules.rules
  distinct := by decide
  minSize := none
  maxSize := none

theorem size_limits_as_rules_wardrobe :
    ∃ f f' A B,
      ClusterFinder.bind wardrobe.catalog wardrobe.matcher.rules wardrobe.rules
        ⟨none, some 2, some 2⟩ = .ok f ∧
      ClusterFinder.bind wardrobe.catalog wardrobe.matcher.rules pairsOnly
        ⟨none, some 1, some wardrobe.catalog.size⟩ = .ok f' ∧
      f.analyze = .ok A ∧ f'.analyze = .ok B ∧
      A.AddsSizes ⟨"least", none, .leaf (.minClusterSize 2)⟩
        ⟨"greatest", none, .leaf (.maxClusterSize 2)⟩ 2 2 B := by
  have hpairs : wardrobe.matcher.rules.bind garments = .ok () := wardrobe.matcher.bound
  have hrules : pairsOnly.bind garments = .ok () := by decide +kernel
  have hf : ClusterFinder.bind wardrobe.catalog wardrobe.matcher.rules wardrobe.rules
      ⟨none, some 2, some 2⟩ = .ok { wardrobe with config := ⟨none, some 2, some 2⟩ } := rfl
  obtain ⟨f', hf'⟩ : ∃ f', ClusterFinder.bind wardrobe.catalog wardrobe.matcher.rules pairsOnly
      ⟨none, some 1, some wardrobe.catalog.size⟩ = .ok f' := exists_bind _ hpairs hrules
  -- The rules can judge the outfits of any size, so in particular those of two garments.
  obtain ⟨A, hA⟩ : ∃ A, { wardrobe with config := ⟨none, some 2, some 2⟩ : ClusterFinder }.analyze
      = .ok A := by
    obtain ⟨min, max, hbounds, hjudged⟩ := exists_analysis_iff.1 exists_analysis_wardrobe
    obtain ⟨rfl, rfl⟩ : 1 = min ∧ 3 = max := Prod.mk.inj (Except.ok.inj hbounds)
    refine exists_analysis_iff.2 ⟨2, 2, rfl, fun S hS hcompatible hle hmax => ?_⟩
    exact hjudged S hS hcompatible (by omega) (by omega)
  rcases size_limits_as_rules (by decide) (by decide) (by decide) rfl rfl rfl hf hf' with
    ⟨e, herror, -⟩ | ⟨A, B, hA, hB, hadds⟩
  · rw [hA] at herror
    cases herror
  · exact ⟨_, f', A, B, hf, hf', hA, hB, hadds⟩

end ClusterFinder

end Ensemble
