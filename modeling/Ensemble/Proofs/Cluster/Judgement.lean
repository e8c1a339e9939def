import Ensemble.Proofs.Cluster.Validity
import Mathlib.Data.List.Dedup

/-!
# Judging a given set

A set that is given by its ids is judged without a graph: its members are compared pair by pair, and
the candidates for a larger set are found by comparing every other item with all members.  In a
catalog with a complete analysis this leads to the same verdict and to the same record.
-/

namespace Ensemble

namespace ClusterFinder

variable {finder : ClusterFinder} {g : Graph} {min max : Nat} {s : IndexSet} {ids : List ItemId}
  {a : Item} {c : Cluster}

/-! ## Positions -/

/-- The positions of the items with the given ids. -/
def positionsOf (finder : ClusterFinder) (ids : List ItemId) : IndexSet :=
  .ofList finder.catalog.size (ids.filterMap finder.catalog.indexOf?)

theorem mem_positionsOf {i : Nat} :
    i ∈ (finder.positionsOf ids).members ↔ ∃ id ∈ ids, finder.catalog.indexOf? id = some i := by
  rw [positionsOf, IndexSet.mem_ofList, List.mem_filterMap]

theorem indicesOf_eq_ok (hids : ∀ id ∈ ids, id ∈ finder.catalog.items.map (·.id)) :
    finder.indicesOf ids = .ok (finder.positionsOf ids) := by
  unfold indicesOf positionsOf IndexSet.ofList
  generalize IndexSet.empty finder.catalog.size = s
  induction ids generalizing s with
  | nil => rfl
  | cons id ids ih =>
    obtain ⟨hid, hids⟩ := List.forall_mem_cons.1 hids
    obtain ⟨i, hi⟩ := Option.isSome_iff_exists.1 (Catalog.isSome_indexOf?.2 hid)
    rw [List.foldlM_cons, List.filterMap_cons_some hi, hi]
    exact ih hids (s.insert i)

theorem selection_positionsOf : finder.Selection (finder.positionsOf ids) where
  capacity := IndexSet.capacity_foldl_insert
  within := by
    intro i hi
    obtain ⟨id, -, hindex⟩ := mem_positionsOf.1 hi
    obtain ⟨a, ha, -⟩ := Catalog.indexOf?_eq_some_iff.1 hindex
    exact (List.getElem?_eq_some_iff.1 ha).1

theorem sortedIds_positionsOf (hids : ∀ id ∈ ids, id ∈ finder.catalog.items.map (·.id)) :
    finder.sortedIds (finder.positionsOf ids) = ItemId.sorted ids.dedup := by
  have hs : finder.Selection (finder.positionsOf ids) := selection_positionsOf
  refine hs.ascending_sortedIds.eq_of_mem_iff (ItemId.ascending_sorted ids.nodup_dedup) fun id => ?_
  rw [mem_sortedIds, ItemId.mem_sorted, List.mem_dedup]
  constructor
  · rintro ⟨i, hi, hindex⟩
    obtain ⟨id', hid', hindex'⟩ := mem_positionsOf.1 hi
    obtain ⟨a, ha, rfl⟩ := Catalog.indexOf?_eq_some_iff.1 hindex
    obtain ⟨b, hb, rfl⟩ := Catalog.indexOf?_eq_some_iff.1 hindex'
    obtain rfl := Option.some.inj (ha.symm.trans hb)
    exact hid'
  · intro hid
    obtain ⟨i, hi⟩ := Option.isSome_iff_exists.1 (Catalog.isSome_indexOf?.2 (hids id hid))
    exact ⟨i, mem_positionsOf.2 ⟨id, hid, hi⟩, hi⟩

/-! ## Pairs -/

/-- Where a graph depicts the catalog, the members can be compared, and there is no conflict if and
only if they form a clique. -/
theorem conflicts_eq_ok (hg : finder.Depicts g) (hs : finder.Selection s) :
    ∃ conflicts, finder.conflicts s = .ok conflicts ∧
      (conflicts.isEmpty = true ↔ s.members.Pairwise (g.adjacent · ·)) := by
  -- The graph was built from the same comparisons, so none of them fails here.
  have hok : (finder.members s).Pairwise fun a b => ∃ v, finder.matcher.passes a b = .ok v := by
    rw [pairwise_members]
    refine s.ascending.imp fun {i j} hlt a ha b hb => ?_
    exact ⟨_, hg.passes ha hb (Nat.ne_of_lt hlt)⟩
  rw [hg.clique_iff hs, ← forall_pairsOf_iff]
  rw [← forall_pairsOf_iff] at hok
  refine ⟨_, filterM_eq_ok_iff.2 ⟨?_, rfl⟩, ?_⟩
  · rintro ⟨a, b⟩ hp
    obtain ⟨v, hv⟩ := hok (a, b) hp
    exact ⟨!v, bind_eq_ok_iff.2 ⟨v, hv, rfl⟩⟩
  · rw [List.isEmpty_iff, List.filter_eq_nil_iff]
    refine forall₂_congr ?_
    rintro ⟨a, b⟩ hp
    obtain ⟨v, hv⟩ := hok (a, b) hp
    dsimp only at hv ⊢
    rw [hv]
    cases v <;> simp [pure_eq_ok, Except.toOption]

/-! ## Candidates -/

theorem compatibleWithAll_eq_ok (others : List Item)
    (h : ∀ b ∈ others, ∃ v, finder.matcher.passes a b = .ok v) :
    ∃ v, finder.compatibleWithAll a others = .ok v ∧
      (v = true ↔ ∀ b ∈ others, finder.matcher.passes a b = .ok true) := by
  induction others with
  | nil => exact ⟨true, rfl, by simp⟩
  | cons b others ih =>
    obtain ⟨⟨v, hv⟩, hrest⟩ := List.forall_mem_cons.1 h
    obtain ⟨w, hw, hall⟩ := ih hrest
    rw [compatibleWithAll, hv, ok_bind, List.forall_mem_cons, hv, ← hall]
    cases v with
    | true => exact ⟨w, hw, by simp⟩
    | false => exact ⟨false, rfl, by simp⟩

theorem candidates_eq (finder : ClusterFinder) (s : IndexSet) :
    finder.candidates s = do
      let found ← finder.catalog.items.zipIdx.filterM fun p =>
        if s.contains p.2 then .ok false
        else finder.compatibleWithAll p.1 (finder.members s)
      return found.foldl (fun found p => found.insert p.2) (.empty finder.catalog.size) := by
  rw [← foldlM_select, candidates]
  refine congrArg (fun step => List.foldlM step _ _) (funext fun found => funext fun p => ?_)
  dsimp only
  by_cases h : s.contains p.2 = true
  · rw [if_pos h, if_pos h]
    rfl
  · rw [if_neg h, if_neg h]

theorem mem_foldl_insert_snd {found : List (Item × Nat)} {i : Nat} :
    i ∈ (found.foldl (fun found p => found.insert p.2) s).members ↔
      i ∈ s.members ∨ ∃ a, (a, i) ∈ found := by
  have hmap : found.foldl (fun found p => found.insert p.2) s
      = (found.map Prod.snd).foldl IndexSet.insert s := List.foldl_map.symm
  rw [hmap, IndexSet.mem_foldl_insert]
  simp

/-- An item outside a set can be compared with all members, and goes with them if and only if it is
a common neighbour. -/
theorem compatibleWithAll_members (hg : finder.Depicts g) (hs : finder.Selection s) {i : Nat}
    (ha : finder.catalog.items[i]? = some a) (hi : i ∉ s.members) :
    ∃ v, finder.compatibleWithAll a (finder.members s) = .ok v ∧
      (v = true ↔ ∀ j ∈ s.members, g.adjacent j i = true) := by
  have hpass : ∀ j ∈ s.members, ∀ b, finder.catalog.items[j]? = some b →
      finder.matcher.passes a b = .ok (g.adjacent j i) := by
    intro j hj b hb
    -- The graph may have compared the two items in the other order.
    rw [Graph.adjacent_comm]
    exact hg.passes ha hb fun heq => hi (heq ▸ hj)
  obtain ⟨v, hv, hall⟩ := compatibleWithAll_eq_ok (finder.members s) fun b hb => by
    obtain ⟨j, hj, hb⟩ := mem_members.1 hb
    exact ⟨_, hpass j hj b hb⟩
  refine ⟨v, hv, hall.trans ⟨fun h j hj => ?_, fun h b hb => ?_⟩⟩
  · obtain ⟨b, hb⟩ := getElem?_of_lt (hs.within j hj)
    exact Except.ok.inj ((hpass j hj b hb).symm.trans (h b (mem_members.2 ⟨j, hj, hb⟩)))
  · obtain ⟨j, hj, hb⟩ := mem_members.1 hb
    rw [hpass j hj b hb, h j hj]

/-- Where a graph depicts the catalog, the candidates are the common neighbours of the members. -/
theorem candidates_eq_ok (hg : finder.Depicts g) (hs : finder.Selection s) :
    ∃ found, finder.candidates s = .ok found ∧
      ∀ i, i ∈ found.members ↔
        i < finder.catalog.size ∧ i ∉ s.members ∧ ∀ j ∈ s.members, g.adjacent j i = true := by
  have htest : ∀ i a, finder.catalog.items[i]? = some a → ∃ v,
      (if s.contains i then .ok false else finder.compatibleWithAll a (finder.members s)) = .ok v ∧
        (v = true ↔ i ∉ s.members ∧ ∀ j ∈ s.members, g.adjacent j i = true) := by
    intro i a ha
    by_cases hi : i ∈ s.members
    · rw [if_pos (IndexSet.contains_iff.2 hi)]
      exact ⟨false, rfl, by simp [hi]⟩
    · rw [if_neg (mt IndexSet.contains_iff.1 hi)]
      obtain ⟨v, hv, hall⟩ := compatibleWithAll_members hg hs ha hi
      exact ⟨v, hv, by simp [hall, hi]⟩
  have hfound : (finder.catalog.items.zipIdx.filterM fun p =>
      if s.contains p.2 then .ok false
      else finder.compatibleWithAll p.1 (finder.members s)) = .ok _ :=
    filterM_eq_ok_iff.2 ⟨by
      rintro ⟨a, i⟩ hp
      obtain ⟨v, hv, -⟩ := htest i a (List.mk_mem_zipIdx_iff_getElem?.1 hp)
      exact ⟨v, hv⟩, rfl⟩
  rw [candidates_eq, hfound, ok_bind]
  refine ⟨_, rfl, fun i => ?_⟩
  rw [mem_foldl_insert_snd]
  simp only [List.mem_filter, List.mk_mem_zipIdx_iff_getElem?]
  constructor
  · rintro (hi | ⟨a, ha, hpass⟩)
    · cases hi
    · obtain ⟨v, hv, hall⟩ := htest i a ha
      have hi : i < finder.catalog.size := (List.getElem?_eq_some_iff.1 ha).1
      exact ⟨hi, hall.1 (Except.ok.inj (hv.symm.trans (toOption_beq_some_iff.1 hpass)))⟩
  · rintro ⟨hi, hcommon⟩
    obtain ⟨a, ha⟩ := getElem?_of_lt hi
    obtain ⟨v, hv, hall⟩ := htest i a ha
    refine .inr ⟨a, ha, ?_⟩
    rw [hv, hall.2 hcommon]
    rfl

/-- The candidates for a larger set are the ones that an analysis looks at. -/
theorem isMaximal_candidates (hg : finder.Depicts g) (hs : finder.Selection s)
    (hne : s.members ≠ []) :
    (finder.candidates s >>= fun found => finder.isMaximal s max found)
      = finder.isMaximal s max (g.commonNeighbors s) := by
  obtain ⟨found, hfound, hmem⟩ := candidates_eq_ok hg hs
  have hsame : found.members = (g.commonNeighbors s).members := by
    refine found.ascending.eq_of_mem_iff (g.commonNeighbors s).ascending fun i => ?_
    rw [hmem, Graph.mem_commonNeighbors hne, and_iff_right_of_imp]
    rintro ⟨-, hadj⟩
    obtain ⟨j, hj⟩ := List.exists_mem_of_ne_nil _ hne
    exact hg.size ▸ (Graph.adjacent_lt (hadj j hj)).2
  rw [hfound, ok_bind, isMaximal, isMaximal, hsame]

/-! ## Verdicts -/

/-- The evaluations of a judgement are passed if the members are compatible, the size is allowed,
and every cluster rule holds. -/
theorem allPassed_evaluations {size : Nat} {conflicts : List (Item × Item)}
    {evaluations : List RuleEvaluation} :
    RuleEvaluation.allPassed
        (pairEvaluation size conflicts :: sizeEvaluation size min max :: evaluations) = true ↔
      conflicts.isEmpty = true ∧ (min ≤ size ∧ size ≤ max) ∧
        RuleEvaluation.allPassed evaluations = true := by
  simp [RuleEvaluation.allPassed, pairEvaluation, sizeEvaluation]

/-- A judgement without the order in which its parts are computed. -/
theorem evaluateSet_eq_ok_iff {conflicts : List (Item × Item)}
    (hbounds : finder.sizeBounds = .ok (min, max)) (hindices : finder.indicesOf ids = .ok s)
    (hconflicts : finder.conflicts s = .ok conflicts) :
    finder.evaluateSet ids = .ok c ↔
      ∃ evaluations, finder.rules.evaluate (finder.members s) = .ok evaluations ∧
        ∃ all,
          all = pairEvaluation s.size conflicts :: sizeEvaluation s.size min max :: evaluations ∧
          ∃ isMaximum,
            (if RuleEvaluation.allPassed all then
              finder.candidates s >>= fun found => finder.isMaximal s max found
            else .ok false) = .ok isMaximum ∧
            c = ⟨finder.sortedIds s, s.size, all, RuleEvaluation.allPassed all, isMaximum⟩ := by
  unfold evaluateSet evaluateRules
  simp only [hbounds, hindices, hconflicts, ok_bind]
  rw [bind_eq_ok_iff]
  simp only [mapError_eq_ok_iff]
  refine exists_congr fun evaluations => and_congr_right fun _ => ?_
  rw [exists_eq_left]
  split
  · simp only [bind_eq_ok_iff, pure_eq_ok, Except.ok.injEq, eq_comm (b := c)]
    grind
  · simp [pure_eq_ok, eq_comm (b := c)]

/-- A record with the evaluations of compatible pairs and of the size in front. -/
def withChecks (min max : Nat) (c : Cluster) : Cluster :=
  { c with
    evaluations := pairEvaluation c.size [] :: sizeEvaluation c.size min max :: c.evaluations }

/-- A given set is judged to be valid if and only if it is wanted, and then it has the record of the
analysis, with the evaluations of its pairs and of its size in front. -/
theorem evaluateSet_valid_iff (hbounds : finder.sizeBounds = .ok (min, max))
    (hg : finder.Depicts g) (hids : ∀ id ∈ ids, id ∈ finder.catalog.items.map (·.id)) :
    (finder.evaluateSet ids = .ok c ∧ c.isValid = true) ↔
      finder.Wanted g min max (finder.positionsOf ids) ∧
        ∃ r, finder.clusterOf g max (finder.positionsOf ids) = .ok r ∧
          c = withChecks min max r := by
  have hmin := one_le_of_sizeBounds hbounds
  have hindices := indicesOf_eq_ok hids
  have hs : finder.Selection (finder.positionsOf ids) := selection_positionsOf
  generalize finder.positionsOf ids = s at hindices hs ⊢
  obtain ⟨conflicts, hconflicts, hempty⟩ := conflicts_eq_ok hg hs
  rw [evaluateSet_eq_ok_iff hbounds hindices hconflicts]
  simp only [clusterOf_eq_ok_iff]
  constructor
  · rintro ⟨⟨evaluations, heval, all, rfl, isMaximum, hmax, rfl⟩, hvalid⟩
    obtain ⟨hnone, ⟨hle, hge⟩, hrules⟩ := allPassed_evaluations.1 hvalid
    have hwanted : finder.Wanted g min max s :=
      ⟨hs, hempty.1 hnone, hle, hge, (passes_iff_allPassed heval).2 hrules⟩
    rw [if_pos hvalid, isMaximal_candidates hg hs (hwanted.members_ne_nil hmin)] at hmax
    refine ⟨hwanted, _, ⟨evaluations, isMaximum, heval, hmax, rfl⟩, ?_⟩
    obtain rfl := List.isEmpty_iff.1 hnone
    rw [Cluster.mk.injEq]
    exact ⟨rfl, rfl, rfl, hvalid, rfl⟩
  · rintro ⟨hwanted, r, ⟨evaluations, isMaximum, heval, hmax, rfl⟩, rfl⟩
    obtain rfl := List.isEmpty_iff.1 (hempty.2 hwanted.clique)
    have hvalid : RuleEvaluation.allPassed
        (pairEvaluation s.size [] :: sizeEvaluation s.size min max :: evaluations) = true :=
      allPassed_evaluations.2 ⟨rfl, ⟨hwanted.min_le, hwanted.le_max⟩,
        (passes_iff_allPassed heval).1 hwanted.passes⟩
    refine ⟨⟨evaluations, heval, _, rfl, isMaximum, ?_, ?_⟩, rfl⟩
    · rw [if_pos hvalid, isMaximal_candidates hg hs (hwanted.members_ne_nil hmin), hmax]
    · rw [hvalid]
      rfl

/-- A cluster is the record of the set that its ids name. -/
theorem Listing.record_of_itemIds {analysis : ClusterAnalysis} (L : finder.Listing analysis)
    (hids : ∀ id ∈ ids, id ∈ finder.catalog.items.map (·.id)) (hc : c ∈ analysis.clusters)
    (h : c.itemIds = ItemId.sorted ids.dedup) :
    finder.Wanted L.graph L.min L.max (finder.positionsOf ids) ∧
      finder.clusterOf L.graph L.max (finder.positionsOf ids) = .ok c := by
  obtain ⟨s, hs, hc⟩ := L.mem_clusters.1 hc
  have hids : finder.sortedIds s = finder.sortedIds (finder.positionsOf ids) := by
    rw [sortedIds_positionsOf hids, ← h, itemIds_of_clusterOf hc]
  obtain rfl := hs.selection.eq_of_sortedIds_eq selection_positionsOf hids
  exact ⟨hs, hc⟩

/-- The judgement of a set agrees with the analysis: the set is listed if and only if it is judged
to be valid, and then the judgement is the record of the analysis with two evaluations in front. -/
theorem evaluateSet_agrees {analysis : ClusterAnalysis} (hcap : finder.config.maxClusters = none)
    (h : finder.analyze = .ok analysis)
    (hids : ∀ id ∈ ids, id ∈ finder.catalog.items.map (·.id)) :
    ((∃ c ∈ analysis.clusters, c.itemIds = ItemId.sorted ids.dedup) ↔
      ∃ d, finder.evaluateSet ids = .ok d ∧ d.isValid = true) ∧
    ∀ c ∈ analysis.clusters, c.itemIds = ItemId.sorted ids.dedup →
      ∃ d, finder.evaluateSet ids = .ok d ∧ d.isValid = true ∧
        d.itemIds = c.itemIds ∧ d.size = c.size ∧ d.isMaximum = c.isMaximum ∧
        ∃ pairs sizes, d.evaluations = pairs :: sizes :: c.evaluations ∧
          pairs.ruleName = "pairwise_compatibility" ∧ pairs.passed = true ∧
          sizes.ruleName = "cluster_size" ∧ sizes.passed = true := by
  obtain ⟨L⟩ := nonempty_listing hcap h
  have hjudged : ∀ c ∈ analysis.clusters, c.itemIds = ItemId.sorted ids.dedup →
      finder.evaluateSet ids = .ok (withChecks L.min L.max c) ∧ c.isValid = true ∧
        L.min ≤ c.size ∧ c.size ≤ L.max := by
    intro c hc hitems
    obtain ⟨hwanted, hrecord⟩ := L.record_of_itemIds hids hc hitems
    obtain ⟨heval, hvalid⟩ :=
      (evaluateSet_valid_iff L.bounds L.depicts hids).2 ⟨hwanted, c, hrecord, rfl⟩
    rw [size_of_clusterOf hrecord]
    exact ⟨heval, hvalid, hwanted.min_le, hwanted.le_max⟩
  refine ⟨⟨?_, ?_⟩, ?_⟩
  · rintro ⟨c, hc, hitems⟩
    obtain ⟨heval, hvalid, -⟩ := hjudged c hc hitems
    exact ⟨_, heval, hvalid⟩
  · rintro ⟨d, hd⟩
    obtain ⟨hwanted, r, hr, -⟩ := (evaluateSet_valid_iff L.bounds L.depicts hids).1 hd
    obtain ⟨c, hmem, hc⟩ := L.exists_record hwanted
    refine ⟨c, hmem, ?_⟩
    rw [itemIds_of_clusterOf hc, sortedIds_positionsOf hids]
  · intro c hc hitems
    obtain ⟨heval, hvalid, hle, hge⟩ := hjudged c hc hitems
    refine ⟨_, heval, hvalid, rfl, rfl, rfl, _, _, rfl, rfl, rfl, rfl, ?_⟩
    simp [sizeEvaluation, hle, hge]

theorem evaluateSet_agrees_wardrobe :
    wardrobe.config.maxClusters = none ∧
    (∀ id ∈ [⟨"trousers"⟩, ⟨"shirt"⟩, ⟨"trousers"⟩], id ∈ wardrobe.catalog.items.map (·.id)) ∧
    ∃ analysis, wardrobe.analyze = .ok analysis ∧
      ((∃ c ∈ analysis.clusters,
          c.itemIds = ItemId.sorted [⟨"trousers"⟩, ⟨"shirt"⟩, ⟨"trousers"⟩].dedup) ↔
        ∃ d, wardrobe.evaluateSet [⟨"trousers"⟩, ⟨"shirt"⟩, ⟨"trousers"⟩] = .ok d ∧
          d.isValid = true) := by
  obtain ⟨analysis, h⟩ := exists_analysis_wardrobe
  have hids : ∀ id ∈ [⟨"trousers"⟩, ⟨"shirt"⟩, ⟨"trousers"⟩],
      id ∈ wardrobe.catalog.items.map (·.id) := by decide +kernel
  exact ⟨rfl, hids, analysis, h, (evaluateSet_agrees rfl h hids).1⟩

end ClusterFinder

end Ensemble
