import Ensemble.Proofs.Catalog.Ids
import Ensemble.Proofs.Pairing.Pairs
import Ensemble.Proofs.Pairing.Safety

/-!
# The matrix of a catalog

A matrix fails if and only if an item of the catalog does not satisfy the schema of the matcher;
that the items of a catalog with the same schema are not validated anew makes no difference.
Otherwise it has one result for each two positions, in lexicographic order, and a lookup by two ids
finds the result for their items.

Each result has a time of its own.  Apart from the times, it is what the comparison of its items
alone gives, and with a clock that stands still the two do not differ in the time either.
-/

namespace Ensemble

/-- Every reading shows the same time, as with a clock that stands still. -/
def TimeSource.Still (source : TimeSource) : Prop :=
  ∀ readings, source.reading readings = source.reading 0

theorem Clock.still_source (clock : Clock) : clock.source.Still := fun _ => rfl

namespace Matcher

variable {matcher : Matcher} {catalog : Catalog} {a b : Item} {e : Error} {readings : Nat}
  {results : List PairResult}

/-! ## Validation -/

theorem fault?_eq_none_iff : matcher.fault? a = none ↔ matcher.schema.validate a = .ok () := by
  unfold fault?
  cases matcher.schema.validate a <;> simp

theorem fault?_eq_some_iff :
    matcher.fault? a = some e ↔ matcher.schema.validate a = .error e := by
  unfold fault?
  cases matcher.schema.validate a <;> simp

/-- The items of a catalog need no validation under the schema that the catalog guarantees. -/
theorem validateCatalog_eq_map (matcher : Matcher) (catalog : Catalog) :
    matcher.validateCatalog catalog = catalog.items.map fun a => (a, matcher.fault? a) := by
  unfold validateCatalog
  split
  · rename_i hschemas
    refine List.map_congr_left fun a ha => ?_
    have hvalid : matcher.schema.validate a = .ok () :=
      (Schema.validate_eq_ok_congr hschemas).1 (catalog.valid a ha)
    rw [fault?_eq_none_iff.2 hvalid]
  · rfl

theorem findSome?_validateCatalog (matcher : Matcher) (catalog : Catalog) :
    (matcher.validateCatalog catalog).findSome? (·.2) = catalog.items.findSome? matcher.fault? := by
  rw [validateCatalog_eq_map, List.findSome?_map]
  rfl

/-! ## Times -/

/-- Results with the times of the readings that follow so many others. -/
def stamped (matcher : Matcher) (readings : Nat) (results : List PairResult) : List PairResult :=
  (results.zipIdx readings).map fun (r, k) => { r with timestamp := matcher.clock.reading k }

theorem stamped_cons (r : PairResult) :
    matcher.stamped readings (r :: results)
      = { r with timestamp := matcher.clock.reading readings }
        :: matcher.stamped (readings + 1) results := rfl

theorem compare_eq_map (matcher : Matcher) (readings : Nat) (a b : Item) :
    matcher.compare readings a b = (matcher.compare 0 a b).map fun r =>
      { r with timestamp := matcher.clock.reading readings } := by
  unfold compare
  cases matcher.rules.evaluate (⟨a, b⟩ : Pair) <;> rfl

/-- Comparing pairs one after the other is comparing each of them first, but for the times. -/
theorem mapM_compare_zipIdx (matcher : Matcher) (readings : Nat) (pairs : List (Item × Item)) :
    (pairs.zipIdx readings).mapM (fun p => matcher.compare p.2 p.1.1 p.1.2)
      = (pairs.mapM fun p => matcher.compare 0 p.1 p.2).map (matcher.stamped readings) := by
  induction pairs generalizing readings with
  | nil => rfl
  | cons p pairs ih =>
    rw [List.zipIdx_cons, List.mapM_cons, List.mapM_cons, ih, compare_eq_map]
    cases matcher.compare 0 p.1 p.2 with
    | error e => rfl
    | ok r => cases pairs.mapM fun p => matcher.compare 0 p.1 p.2 <;> rfl

/-- Every result has a reading of its own. -/
theorem timestamps_stamped :
    (matcher.stamped readings results).map (·.timestamp)
      = (List.range' readings (matcher.stamped readings results).length).map
          matcher.clock.reading := by
  induction results generalizing readings with
  | nil => rfl
  | cons r results ih =>
    rw [stamped_cons, List.map_cons, ih, List.length_cons, List.range'_succ, List.map_cons]

/-- Where the time stands still, results keep the time that they have. -/
theorem stamped_of_still (hstill : matcher.clock.Still)
    (h : ∀ r ∈ results, r.timestamp = matcher.clock.reading 0) :
    matcher.stamped readings results = results := by
  induction results generalizing readings with
  | nil => rfl
  | cons r results ih =>
    obtain ⟨hr, hresults⟩ := List.forall_mem_cons.1 h
    rw [stamped_cons, ih hresults, hstill readings, ← hr]

theorem timestamp_of_compare {r : PairResult} (h : matcher.compare readings a b = .ok r) :
    r.timestamp = matcher.clock.reading readings := by
  obtain ⟨es, -, rfl⟩ := compare_eq_ok_iff.1 h
  rfl

theorem stamped_of_compare (hstill : matcher.clock.Still) {pairs : List (Item × Item)}
    (h : pairs.mapM (fun p => matcher.compare 0 p.1 p.2) = .ok results) :
    matcher.stamped readings results = results := by
  refine stamped_of_still hstill fun r hr => ?_
  obtain ⟨p, -, hp⟩ := (mem_of_mapM h).1 hr
  exact timestamp_of_compare hp

/-! ## Success and failure -/

/-- If the items satisfy the schema, all pairs can be compared. -/
theorem exists_results (hvalid : ∀ a ∈ catalog.items, matcher.schema.validate a = .ok ()) :
    ∃ results, (pairsOf catalog.items).mapM (fun p => matcher.compare 0 p.1 p.2) = .ok results ∧
      matcher.matrix catalog
        = .ok (.ofResults catalog.name matcher.rules.name (matcher.stamped 0 results)) := by
  have hcompare : ∀ p ∈ pairsOf catalog.items, ∃ r, matcher.compare 0 p.1 p.2 = .ok r := by
    rintro ⟨a, b⟩ hp
    have hsub := mem_pairsOf_iff_sublist.1 hp
    have ha : a ∈ catalog.items := hsub.subset (by simp)
    have hb : b ∈ catalog.items := hsub.subset (by simp)
    obtain ⟨r, hr, -⟩ := matcher.exists_result 0 (hvalid a ha) (hvalid b hb)
    exact ⟨r, hr⟩
  obtain ⟨results, hresults⟩ := exists_mapM hcompare
  have hfaults : catalog.items.findSome? matcher.fault? = none :=
    List.findSome?_eq_none_iff.2 fun a ha => fault?_eq_none_iff.2 (hvalid a ha)
  refine ⟨results, hresults, ?_⟩
  unfold matrix
  rw [findSome?_validateCatalog, hfaults]
  dsimp only
  rw [mapM_compare_zipIdx, hresults]
  rfl

/-- A matrix fails with the first fault among the items. -/
theorem matrix_eq_error_iff :
    matcher.matrix catalog = .error e ↔ catalog.items.findSome? matcher.fault? = some e := by
  cases hfaults : catalog.items.findSome? matcher.fault? with
  | none =>
    have hvalid : ∀ a ∈ catalog.items, matcher.schema.validate a = .ok () := fun a ha =>
      fault?_eq_none_iff.1 (List.findSome?_eq_none_iff.1 hfaults a ha)
    obtain ⟨results, -, hmatrix⟩ := exists_results hvalid
    rw [hmatrix]
    simp
  | some fault =>
    unfold matrix
    rw [findSome?_validateCatalog, hfaults]
    simp

theorem exists_invalid_of_matrix (h : matcher.matrix catalog = .error e) :
    ∃ a ∈ catalog.items, matcher.schema.validate a = .error e := by
  obtain ⟨a, ha, hfault⟩ := List.exists_of_findSome?_eq_some (matrix_eq_error_iff.1 h)
  exact ⟨a, ha, fault?_eq_some_iff.1 hfault⟩

theorem failsOnly_matrix (matcher : Matcher) (catalog : Catalog) :
    FailsOnly (·.stage ≠ .evaluation) (matcher.matrix catalog) := by
  intro e he
  obtain ⟨a, -, hinvalid⟩ := exists_invalid_of_matrix he
  exact matcher.schema.failsOnly_validate a e hinvalid

end Matcher

/-! ## Looking up results -/

theorem find?_eq_some_of_unique {α : Type} {p : α → Bool} {xs : List α} {x : α} (hx : x ∈ xs)
    (hp : p x = true) (hunique : ∀ y ∈ xs, p y = true → y = x) : xs.find? p = some x := by
  cases hfound : xs.find? p with
  | none => exact absurd hp (List.find?_eq_none.1 hfound x hx)
  | some y => rw [hunique y (List.mem_of_find?_eq_some hfound) (List.find?_some hfound)]

namespace Matrix

theorem involves_iff {r : PairResult} {x y : ItemId} :
    r.involves x y = true ↔ r.first = x ∧ r.second = y ∨ r.first = y ∧ r.second = x := by
  simp [PairResult.involves]

theorem get?_comm (m : Matrix) (x y : ItemId) : m.get? x y = m.get? y x := by
  unfold get?
  refine congrArg (m.results.find? ·) (funext fun r => ?_)
  rw [Bool.eq_iff_iff, involves_iff, involves_iff, or_comm]

theorem get?_eq_none_iff {m : Matrix} {x y : ItemId} :
    m.get? x y = none ↔ ∀ r ∈ m.results, ¬ (r.first = x ∧ r.second = y) ∧
      ¬ (r.first = y ∧ r.second = x) := by
  unfold get?
  simp only [List.find?_eq_none, involves_iff, not_or]

/-! ## Tables of results -/

/-- A matrix is the table of the results for the pairs of a catalog. -/
structure Tabulates (m : Matrix) (matcher : Matcher) (catalog : Catalog) : Prop where
  /-- The results belong to the pairs of positions, in lexicographic order. -/
  results : ∃ positions : List (Nat × Nat),
    positions.Pairwise (Prod.Lex (· < ·) (· < ·)) ∧
    (∀ i j, (i, j) ∈ positions ↔ i < j ∧ j < catalog.size) ∧
    List.Forall₂ (fun p r => ∃ a b, catalog.items[p.1]? = some a ∧ catalog.items[p.2]? = some b ∧
      matcher.evaluatePair a b = .ok r) positions m.results
  total : m.total = catalog.size * (catalog.size - 1) / 2
  /-- Two ids find the result for their items, in either order. -/
  get? : ∀ (i j : Nat) (a b : Item), i < j → catalog.items[i]? = some a → catalog.items[j]? = some b →
    ∃ r, matcher.evaluatePair a b = .ok r ∧ m.get? a.id b.id = some r ∧ m.get? b.id a.id = some r
  get?_self : ∀ x, m.get? x x = none
  get?_unknown : ∀ x y, x ∉ catalog.items.map (·.id) → m.get? x y = none ∧ m.get? y x = none

variable {matcher : Matcher} {catalog : Catalog} {results : List PairResult} {r : PairResult}

section

variable (h : (pairsOf catalog.items).mapM (fun p => matcher.compare 0 p.1 p.2) = .ok results)

include h

/-- A result belongs to two items at different positions, the earlier one first. -/
theorem exists_items (hr : r ∈ results) :
    ∃ (i j : Nat) (a b : Item), i < j ∧ catalog.items[i]? = some a ∧
      catalog.items[j]? = some b ∧ matcher.compare 0 a b = .ok r ∧
      r.first = a.id ∧ r.second = b.id := by
  obtain ⟨⟨a, b⟩, hp, hcompare⟩ := (mem_of_mapM h).1 hr
  obtain ⟨i, j, hlt, ha, hb⟩ := mem_pairsOf_iff_getElem?.1 hp
  obtain ⟨es, -, rfl⟩ := Matcher.compare_eq_ok_iff.1 hcompare
  exact ⟨i, j, a, b, hlt, ha, hb, hcompare, rfl, rfl⟩

theorem find?_involves {i j : Nat} {a b : Item} (hlt : i < j) (ha : catalog.items[i]? = some a)
    (hb : catalog.items[j]? = some b) :
    ∃ r, matcher.compare 0 a b = .ok r ∧ results.find? (·.involves a.id b.id) = some r := by
  obtain ⟨r, hr, hcompare⟩ :=
    exists_mem_of_mapM h (mem_pairsOf_iff_getElem?.2 ⟨i, j, hlt, ha, hb⟩)
  have hcompare : matcher.compare 0 a b = .ok r := hcompare
  obtain ⟨es, -, hids⟩ := Matcher.compare_eq_ok_iff.1 hcompare
  refine ⟨r, hcompare, find?_eq_some_of_unique hr ?_ fun r' hr' hinvolves => ?_⟩
  · rw [involves_iff, hids]
    exact .inl ⟨rfl, rfl⟩
  · obtain ⟨k, l, a', b', hlt', ha', hb', hcompare', hfirst, hsecond⟩ := exists_items h hr'
    rw [involves_iff, hfirst, hsecond] at hinvolves
    rcases hinvolves with ⟨hfirst, hsecond⟩ | ⟨hfirst, hsecond⟩
    · obtain rfl := Catalog.index_eq_of_id_eq ha' ha hfirst
      obtain rfl := Catalog.index_eq_of_id_eq hb' hb hsecond
      obtain rfl := Option.some.inj (ha.symm.trans ha')
      obtain rfl := Option.some.inj (hb.symm.trans hb')
      exact Except.ok.inj (hcompare'.symm.trans hcompare)
    · -- The result would belong to the two items in the wrong order.
      have hk := Catalog.index_eq_of_id_eq ha' hb hfirst
      have hl := Catalog.index_eq_of_id_eq hb' ha hsecond
      omega

theorem forall₂_positions (hvalid : ∀ a ∈ catalog.items, matcher.schema.validate a = .ok ()) :
    List.Forall₂ (fun p r => ∃ a b, catalog.items[p.1]? = some a ∧ catalog.items[p.2]? = some b ∧
      matcher.evaluatePair a b = .ok r) (positionPairs catalog.size) results := by
  have hsteps := mapM_eq_ok_iff.1 h
  rw [← elements_pairsOf_zipIdx, List.forall₂_map_left_iff] at hsteps
  have hpositions := positions_pairsOf_zipIdx catalog.items
  rw [Catalog.size, ← hpositions, List.forall₂_map_left_iff]
  refine ((List.forall₂_and_left _ _).2 ⟨fun p hp => hp, hsteps⟩).imp ?_
  rintro ⟨⟨a, i⟩, ⟨b, j⟩⟩ r ⟨hp, hcompare⟩
  obtain ⟨-, ha, hb⟩ := mem_pairsOf_zipIdx.1 hp
  have hvalida := hvalid a (List.mem_of_getElem? ha)
  have hvalidb := hvalid b (List.mem_of_getElem? hb)
  exact ⟨a, b, ha, hb, (Matcher.evaluatePair_eq_compare hvalida hvalidb).trans hcompare⟩

/-- The results of a catalog whose items satisfy the schema make up a table. -/
theorem tabulates_ofResults (hvalid : ∀ a ∈ catalog.items, matcher.schema.validate a = .ok ()) :
    (ofResults catalog.name matcher.rules.name results).Tabulates matcher catalog where
  results := ⟨positionPairs catalog.size, pairwise_positionPairs _, fun i j => mem_positionPairs,
    forall₂_positions h hvalid⟩
  total := by
    have hlength := (mapM_eq_ok_iff.1 h).length_eq
    rw [length_pairsOf] at hlength
    exact hlength.symm
  get? := fun i j a b hlt ha hb => by
    obtain ⟨r, hcompare, hfound⟩ := find?_involves h hlt ha hb
    have hvalida := hvalid a (List.mem_of_getElem? ha)
    have hvalidb := hvalid b (List.mem_of_getElem? hb)
    have hpair := (Matcher.evaluatePair_eq_compare hvalida hvalidb).trans hcompare
    exact ⟨r, hpair, hfound, (get?_comm _ b.id a.id).trans hfound⟩
  get?_self := fun x => by
    refine get?_eq_none_iff.2 fun r hr => ?_
    obtain ⟨i, j, a, b, hlt, ha, hb, -, hfirst, hsecond⟩ := exists_items h hr
    rw [hfirst, hsecond, and_self]
    rintro ⟨rfl, hids⟩
    have hsame := Catalog.index_eq_of_id_eq ha hb hids.symm
    omega
  get?_unknown := fun x y hx => by
    have hnone : get? (ofResults catalog.name matcher.rules.name results) x y = none := by
      refine get?_eq_none_iff.2 fun r hr => ?_
      obtain ⟨i, j, a, b, -, ha, hb, -, hfirst, hsecond⟩ := exists_items h hr
      rw [hfirst, hsecond]
      constructor
      · rintro ⟨rfl, -⟩
        exact hx (List.mem_map_of_mem (List.mem_of_getElem? ha))
      · rintro ⟨-, rfl⟩
        exact hx (List.mem_map_of_mem (List.mem_of_getElem? hb))
    exact ⟨hnone, (get?_comm _ y x).trans hnone⟩

end

end Matrix

end Ensemble
