import Ensemble.Proofs.Cluster.Failures
import Ensemble.Proofs.Cluster.Growth

/-!
# What a judgement decides

A judgement of given ids works on positions, and reaches its verdicts by three separate walks over
the catalog.  Here they are stated in terms of the items with these ids: whether they form a valid
set, which of them do not go together, and whether a further item can join them.  As nothing else is
read, neither the order nor the repetition of ids matters.
-/

namespace Ensemble

namespace ClusterFinder

variable {finder : ClusterFinder} {g : Graph} {min max : Nat} {ids ids' before after : List ItemId}
  {id : ItemId} {i : Nat} {x : Item} {S : List Item} {c : Cluster}

/-- The items with the given ids, in catalog order. -/
def named (finder : ClusterFinder) (ids : List ItemId) : List Item :=
  finder.catalog.items.filter fun a => decide (a.id ∈ ids)

/-- An item outside a set can join it: it goes with every member, and with it the cluster rules hold
too. -/
structure CanJoin (finder : ClusterFinder) (ids : List ItemId) (x : Item) : Prop where
  mem : x ∈ finder.catalog.items
  outside : x ∉ finder.named ids
  compatible : ∀ a ∈ finder.named ids, finder.matcher.isCompatible x a = .ok true
  rules : ∀ rule ∈ finder.rules.rules, rule.Passes (finder.named (x.id :: ids))

/-- A list has the pairs of items of a set that do not go together, each once. -/
structure ListsConflicts (finder : ClusterFinder) (S : List Item) (pairs : List (Item × Item)) :
    Prop where
  nodup : pairs.Nodup
  oneOrder : ∀ a b, (a, b) ∈ pairs → (b, a) ∉ pairs
  mem_iff : ∀ a b, ((a, b) ∈ pairs ∨ (b, a) ∈ pairs) ↔
    a ∈ S ∧ b ∈ S ∧ a ≠ b ∧ finder.matcher.isCompatible a b = .ok false

/-- A record decides the set with the given ids: whether it is valid, whether it cannot grow, and
which of its pairs do not go together. -/
structure Decides (finder : ClusterFinder) (min max : Nat) (ids : List ItemId) (c : Cluster) :
    Prop where
  itemIds : c.itemIds = ItemId.sorted ids.dedup
  size : c.size = ids.dedup.length
  length_named : (finder.named ids).length = c.size
  isValid : c.isValid = true ↔ finder.Valid (finder.named ids)
  isMaximum : c.isMaximum = true ↔
    c.isValid = true ∧ (max ≤ c.size ∨ ¬ ∃ x, finder.CanJoin ids x)
  evaluations : ∃ pairs rest conflicts,
    c.evaluations = pairs :: sizeEvaluation c.size min max :: rest ∧
    finder.rules.evaluate (finder.named ids) = .ok rest ∧
    finder.ListsConflicts (finder.named ids) conflicts ∧
    pairs.ruleName = "pairwise_compatibility" ∧
    (pairs.passed = true ↔ ¬ ∃ a ∈ finder.named ids, ∃ b ∈ finder.named ids,
      a ≠ b ∧ finder.matcher.isCompatible a b = .ok false) ∧
    (pairs.passed = false → pairs.reason = "incompatible: " ++ "; ".intercalate
      (conflicts.map fun (a, b) => a.id.text ++ " and " ++ b.id.text))

/-! ## Named items -/

theorem mem_named : x ∈ finder.named ids ↔ x ∈ finder.catalog.items ∧ x.id ∈ ids := by
  simp [named]

theorem named_sublist (finder : ClusterFinder) (ids : List ItemId) :
    (finder.named ids).Sublist finder.catalog.items := List.filter_sublist

/-- The named items are the members of the set of positions of their ids. -/
theorem members_positionsOf (hids : ∀ id ∈ ids, id ∈ finder.catalog.items.map (·.id)) :
    finder.members (finder.positionsOf ids) = finder.named ids := by
  obtain ⟨t, ht, hmembers⟩ := exists_selection (finder.named_sublist ids)
  have hsame : finder.positionsOf ids = t := by
    refine selection_positionsOf.eq_of_ids ht fun id => ?_
    rw [sortedIds_positionsOf hids, ItemId.mem_sorted, List.mem_dedup, sortedIds,
      ItemId.mem_sorted, hmembers, List.mem_map]
    constructor
    · intro hid
      obtain ⟨a, ha, rfl⟩ := List.mem_map.1 (hids id hid)
      exact ⟨a, mem_named.2 ⟨ha, hid⟩, rfl⟩
    · rintro ⟨a, ha, rfl⟩
      exact (mem_named.1 ha).2
  rw [hsame, hmembers]

theorem positionsOf_congr (h : ∀ id, id ∈ ids' ↔ id ∈ ids) :
    finder.positionsOf ids' = finder.positionsOf ids := by
  refine IndexSet.eq_of_mem_iff ?_ fun i => ?_
  · exact selection_positionsOf.capacity.trans selection_positionsOf.capacity.symm
  · simp only [mem_positionsOf, h]

theorem insert_positionsOf (hx : finder.catalog.items[i]? = some x) :
    (finder.positionsOf ids).insert i = finder.positionsOf (x.id :: ids) := by
  have hindex : finder.catalog.indexOf? x.id = some i :=
    Catalog.indexOf?_eq_some_iff.2 ⟨x, hx, rfl⟩
  refine IndexSet.eq_of_mem_iff ?_ fun j => ?_
  · exact selection_positionsOf.capacity.trans selection_positionsOf.capacity.symm
  · rw [IndexSet.mem_insert, mem_positionsOf, mem_positionsOf, List.exists_mem_cons_iff, hindex,
      Option.some.injEq, eq_comm]

/-! ## Unknown ids -/

/-- Looking up ids stops at the first one that is not in the catalog. -/
theorem indicesOf_eq_error (hbefore : ∀ id ∈ before, id ∈ finder.catalog.items.map (·.id))
    (hid : id ∉ finder.catalog.items.map (·.id)) :
    finder.indicesOf (before ++ id :: after) = .error (Cause.unknownItem id.text) := by
  have hindex : finder.catalog.indexOf? id = none := by
    rw [← Option.not_isSome_iff_eq_none, Catalog.isSome_indexOf?]
    exact hid
  have hfound := indicesOf_eq_ok hbefore
  unfold indicesOf at hfound ⊢
  rw [List.foldlM_append, hfound, ok_bind, List.foldlM_cons, hindex]
  rfl

theorem evaluateSet_eq_error (hbounds : finder.sizeBounds = .ok (min, max))
    (hbefore : ∀ id ∈ before, id ∈ finder.catalog.items.map (·.id))
    (hid : id ∉ finder.catalog.items.map (·.id)) :
    finder.evaluateSet (before ++ id :: after) = .error (Cause.unknownItem id.text) := by
  unfold evaluateSet
  rw [hbounds, indicesOf_eq_error hbefore hid]
  rfl

/-- Nothing but the set of positions is read of the ids. -/
theorem evaluateSet_congr (hids : ∀ id ∈ ids, id ∈ finder.catalog.items.map (·.id))
    (h : ∀ id, id ∈ ids' ↔ id ∈ ids) : finder.evaluateSet ids' = finder.evaluateSet ids := by
  have hids' : ∀ id ∈ ids', id ∈ finder.catalog.items.map (·.id) :=
    fun id hid => hids id ((h id).1 hid)
  unfold evaluateSet
  rw [indicesOf_eq_ok hids, indicesOf_eq_ok hids', positionsOf_congr h]

/-! ## Conflicts -/

theorem listsConflicts_filter (hS : S.Sublist finder.catalog.items) :
    finder.ListsConflicts S
      ((pairsOf S).filter fun p => (finder.matcher.passes p.1 p.2).toOption == some false) := by
  have hnodup : S.Nodup := finder.catalog.distinct.of_map.sublist hS
  refine ⟨(nodup_pairsOf hnodup).filter _, fun a b h hswap => ?_, fun a b => ?_⟩
  · exact swap_notMem_pairsOf hnodup (List.mem_of_mem_filter h) (List.mem_of_mem_filter hswap)
  · simp only [List.mem_filter, toOption_beq_some_iff]
    rw [finder.matcher.passes_swap (a := b), ← or_and_right, mem_pairsOf_or_swap hnodup]
    simp only [and_assoc]
    refine and_congr_right fun ha => and_congr_right fun hb => and_congr_right fun _ => ?_
    rw [isCompatible_eq_passes (hS.subset ha) (hS.subset hb)]

/-- The members of a set can always be compared, and the conflicts are the pairs that do not go
together. -/
theorem exists_conflicts {s : IndexSet} (hs : finder.Selection s) :
    ∃ conflicts, finder.conflicts s = .ok conflicts ∧
      finder.ListsConflicts (finder.members s) conflicts := by
  refine ⟨_, filterM_eq_ok_iff.2 ⟨?_, rfl⟩, ?_⟩
  · rintro ⟨a, b⟩ hp
    have hsub := (mem_pairsOf_iff_sublist.1 hp).trans hs.members_sublist
    have ha : a ∈ finder.catalog.items := hsub.subset (by simp)
    have hb : b ∈ finder.catalog.items := hsub.subset (by simp)
    obtain ⟨v, hv⟩ := exists_passes ha hb
    exact ⟨!v, bind_eq_ok_iff.2 ⟨v, hv, rfl⟩⟩
  · convert finder.listsConflicts_filter hs.members_sublist using 3 with p
    dsimp only
    cases finder.matcher.passes p.1 p.2 with
    | error e => rfl
    | ok v => cases v <;> rfl

theorem ListsConflicts.isEmpty_iff {conflicts : List (Item × Item)}
    (h : finder.ListsConflicts S conflicts) :
    conflicts.isEmpty = true ↔
      ¬ ∃ a ∈ S, ∃ b ∈ S, a ≠ b ∧ finder.matcher.isCompatible a b = .ok false := by
  rw [List.isEmpty_iff]
  constructor
  · rintro rfl ⟨a, ha, b, hb, hne, hconflict⟩
    simpa using (h.mem_iff a b).2 ⟨ha, hb, hne, hconflict⟩
  · intro hnone
    refine List.eq_nil_iff_forall_not_mem.2 fun ⟨a, b⟩ hp => hnone ?_
    obtain ⟨ha, hb, hne, hconflict⟩ := (h.mem_iff a b).1 (.inl hp)
    exact ⟨a, ha, b, hb, hne, hconflict⟩

/-! ## Growing -/

theorem mem_members_iff {s : IndexSet} (hx : finder.catalog.items[i]? = some x) :
    x ∈ finder.members s ↔ i ∈ s.members := by
  rw [mem_members]
  constructor
  · rintro ⟨j, hj, hx'⟩
    have hi := Catalog.indexOf?_eq_some_iff.2 ⟨x, hx, rfl⟩
    obtain rfl := Option.some.inj (hi.symm.trans (Catalog.indexOf?_eq_some_iff.2 ⟨x, hx', rfl⟩))
    exact hj
  · intro hi
    exact ⟨i, hi, hx⟩

/-- An item outside a set goes with every member if and only if it is a common neighbour. -/
theorem compatible_iff_adjacent {s : IndexSet} (hg : finder.Depicts g) (hs : finder.Selection s)
    (hx : finder.catalog.items[i]? = some x) (hi : i ∉ s.members) :
    (∀ a ∈ finder.members s, finder.matcher.isCompatible x a = .ok true) ↔
      ∀ j ∈ s.members, g.adjacent j i = true := by
  have hsub : ∀ a ∈ finder.members s, a ∈ finder.catalog.items :=
    fun a ha => hs.members_sublist.subset ha
  have hmem : x ∈ finder.catalog.items := List.mem_of_getElem? hx
  obtain ⟨v, hv, hadj⟩ := compatibleWithAll_members hg hs hx hi
  obtain ⟨w, hw, hall⟩ := compatibleWithAll_eq_ok (finder.members s) fun a ha =>
    exists_passes hmem (hsub a ha)
  obtain rfl := Except.ok.inj (hv.symm.trans hw)
  rw [← hadj, hall]
  refine forall₂_congr fun a ha => ?_
  rw [isCompatible_eq_passes hmem (hsub a ha)]

/-- The candidates for a larger set are the items outside the set that go with every member. -/
theorem exists_candidates (hids : ∀ id ∈ ids, id ∈ finder.catalog.items.map (·.id)) :
    ∃ found, finder.candidates (finder.positionsOf ids) = .ok found ∧
      ∀ i, i ∈ found.members ↔ ∃ x, finder.catalog.items[i]? = some x ∧ x ∉ finder.named ids ∧
        ∀ a ∈ finder.named ids, finder.matcher.isCompatible x a = .ok true := by
  obtain ⟨g, hgraph⟩ := finder.exists_graph
  have hg := depicts_of_graph hgraph
  have hs : finder.Selection (finder.positionsOf ids) := selection_positionsOf
  obtain ⟨found, hfound, hmem⟩ := candidates_eq_ok hg hs
  refine ⟨found, hfound, fun i => (hmem i).trans ?_⟩
  rw [← members_positionsOf hids]
  constructor
  · rintro ⟨hbelow, hout, hadj⟩
    obtain ⟨x, hx⟩ := getElem?_of_lt hbelow
    refine ⟨x, hx, ?_, (compatible_iff_adjacent hg hs hx hout).2 hadj⟩
    rwa [mem_members_iff hx]
  · rintro ⟨x, hx, hout, hcompatible⟩
    rw [mem_members_iff hx] at hout
    have hbelow : i < finder.catalog.size := (List.getElem?_eq_some_iff.1 hx).1
    exact ⟨hbelow, hout, (compatible_iff_adjacent hg hs hx hout).1 hcompatible⟩

theorem passes_insert_iff (hids : ∀ id ∈ ids, id ∈ finder.catalog.items.map (·.id))
    (hx : finder.catalog.items[i]? = some x) :
    finder.passes ((finder.positionsOf ids).insert i) = .ok true ↔
      ∀ rule ∈ finder.rules.rules, rule.Passes (finder.named (x.id :: ids)) := by
  have hgrown : ∀ id ∈ x.id :: ids, id ∈ finder.catalog.items.map (·.id) :=
    List.forall_mem_cons.2 ⟨List.mem_map_of_mem (List.mem_of_getElem? hx), hids⟩
  rw [passes_iff, insert_positionsOf hx, members_positionsOf hgrown]

/-- The search for a larger set finds out whether an item can join. -/
theorem isMaximal_iff_canJoin {isMaximum : Bool}
    (hids : ∀ id ∈ ids, id ∈ finder.catalog.items.map (·.id))
    (h : (finder.candidates (finder.positionsOf ids) >>= fun found =>
      finder.isMaximal (finder.positionsOf ids) max found) = .ok isMaximum) :
    isMaximum = true ↔
      max ≤ (finder.positionsOf ids).size ∨ ¬ ∃ x, finder.CanJoin ids x := by
  obtain ⟨found, hfound, hmem⟩ := exists_candidates hids
  rw [hfound, ok_bind] at h
  rw [isMaximal_iff h]
  constructor
  · intro hnone
    refine or_iff_not_imp_left.2 fun hsize => ?_
    rintro ⟨x, hx⟩
    obtain ⟨i, hi⟩ := List.mem_iff_getElem?.1 hx.mem
    have hcandidate : i ∈ found.members := (hmem i).2 ⟨x, hi, hx.outside, hx.compatible⟩
    have hpass := (passes_insert_iff hids hi).2 hx.rules
    exact hnone i hcandidate (Nat.lt_of_not_le hsize) hpass
  · intro hall i hi hsize hpass
    obtain ⟨x, hx, hout, hcompatible⟩ := (hmem i).1 hi
    have hrules := (passes_insert_iff hids hx).1 hpass
    refine (hall.resolve_left (Nat.not_le.2 hsize)) ⟨x, ?_⟩
    exact ⟨List.mem_of_getElem? hx, hout, hcompatible, hrules⟩

/-! ## Judgements -/

/-- A judgement that succeeds decides its set. -/
theorem decides_of_evaluateSet (hbounds : finder.sizeBounds = .ok (min, max))
    (hids : ∀ id ∈ ids, id ∈ finder.catalog.items.map (·.id))
    (h : finder.evaluateSet ids = .ok c) : finder.Decides min max ids c := by
  obtain ⟨g, hgraph⟩ := finder.exists_graph
  have hg := depicts_of_graph hgraph
  have hs : finder.Selection (finder.positionsOf ids) := selection_positionsOf
  have hmembers := members_positionsOf hids
  obtain ⟨conflicts, hconflicts, hlists⟩ := exists_conflicts hs
  obtain ⟨evaluations, heval, all, rfl, isMaximum, hmax, rfl⟩ :=
    (evaluateSet_eq_ok_iff hbounds (indicesOf_eq_ok hids) hconflicts).1 h
  have hclique : conflicts.isEmpty = true ↔
      (finder.positionsOf ids).members.Pairwise (g.adjacent · ·) := by
    obtain ⟨_, hsame, hempty⟩ := conflicts_eq_ok hg hs
    rwa [← Except.ok.inj (hconflicts.symm.trans hsame)] at hempty
  refine ⟨sortedIds_positionsOf hids, ?_, ?_, ?_, ?_, ?_⟩
  · show (finder.positionsOf ids).size = _
    rw [← hs.length_sortedIds, sortedIds_positionsOf hids, ItemId.length_sorted]
  · rw [← hmembers, hs.length_members]
  · rw [← hmembers, ← wanted_iff_valid hbounds hg hs, allPassed_evaluations, hclique,
      ← passes_iff_allPassed heval]
    constructor
    · rintro ⟨hpairs, ⟨hle, hge⟩, hrules⟩
      exact ⟨hs, hpairs, hle, hge, hrules⟩
    · intro hwanted
      exact ⟨hwanted.clique, ⟨hwanted.min_le, hwanted.le_max⟩, hwanted.passes⟩
  · dsimp only
    split at hmax
    · rename_i hvalid
      rw [isMaximal_iff_canJoin hids hmax, and_iff_right hvalid]
    · rename_i hvalid
      obtain rfl := Except.ok.inj hmax
      simp [hvalid]
  · rw [hmembers] at heval hlists
    exact ⟨_, evaluations, conflicts, rfl, heval, hlists, rfl, hlists.isEmpty_iff,
      fun hfailed => if_neg (Bool.eq_false_iff.1 hfailed)⟩

/-- A judgement fails at the first id that is not in the catalog.  Otherwise it depends on the set
of ids alone, and if it succeeds, it decides this set. -/
theorem evaluateSet_exact (hbounds : finder.sizeBounds = .ok (min, max)) (ids : List ItemId) :
    (∀ before id after, ids = before ++ id :: after →
      (∀ known ∈ before, known ∈ finder.catalog.items.map (·.id)) →
      id ∉ finder.catalog.items.map (·.id) →
        finder.evaluateSet ids = .error (Cause.unknownItem id.text)) ∧
    ((∀ id ∈ ids, id ∈ finder.catalog.items.map (·.id)) →
      (∀ ids', (∀ id, id ∈ ids' ↔ id ∈ ids) → finder.evaluateSet ids' = finder.evaluateSet ids) ∧
      ∀ c, finder.evaluateSet ids = .ok c → finder.Decides min max ids c) := by
  refine ⟨?_, fun hids => ⟨fun ids' h => evaluateSet_congr hids h, fun c h => ?_⟩⟩
  · rintro before id after rfl hbefore hid
    exact evaluateSet_eq_error hbounds hbefore hid
  · exact decides_of_evaluateSet hbounds hids h

/-- Trousers and a coat of one colour, named with a repetition, and the same with an unknown hat. -/
theorem evaluateSet_exact_wardrobe :
    wardrobe.sizeBounds = .ok (1, 3) ∧
    wardrobe.evaluateSet [⟨"coat"⟩, ⟨"hat"⟩, ⟨"gown"⟩] = .error (Cause.unknownItem "hat") ∧
    wardrobe.evaluateSet [⟨"trousers"⟩, ⟨"coat"⟩] =
      wardrobe.evaluateSet [⟨"coat"⟩, ⟨"trousers"⟩, ⟨"coat"⟩] ∧
    ∃ c, wardrobe.evaluateSet [⟨"coat"⟩, ⟨"trousers"⟩, ⟨"coat"⟩] = .ok c ∧
      wardrobe.Decides 1 3 [⟨"coat"⟩, ⟨"trousers"⟩, ⟨"coat"⟩] c := by
  have hbounds : wardrobe.sizeBounds = .ok (1, 3) := rfl
  obtain ⟨hunknown, -⟩ := evaluateSet_exact hbounds [⟨"coat"⟩, ⟨"hat"⟩, ⟨"gown"⟩]
  obtain ⟨-, hknown⟩ := evaluateSet_exact hbounds [⟨"coat"⟩, ⟨"trousers"⟩, ⟨"coat"⟩]
  obtain ⟨hsame, hdecides⟩ := hknown (by decide +kernel)
  obtain ⟨c, hc⟩ : ∃ c, wardrobe.evaluateSet [⟨"coat"⟩, ⟨"trousers"⟩, ⟨"coat"⟩] = .ok c := by
    have hsome : (wardrobe.evaluateSet
      [⟨"coat"⟩, ⟨"trousers"⟩, ⟨"coat"⟩]).toOption.isSome = true := by decide +kernel
    exact (Option.isSome_iff_exists.1 hsome).imp fun c => toOption_eq_some_iff.1
  refine ⟨hbounds, ?_, ?_, c, hc, hdecides c hc⟩
  · exact hunknown [⟨"coat"⟩] ⟨"hat"⟩ [⟨"gown"⟩] rfl (by decide +kernel) (by decide +kernel)
  · refine hsame _ fun id => ?_
    simp only [List.mem_cons, List.not_mem_nil, or_false]
    tauto

end ClusterFinder

end Ensemble
