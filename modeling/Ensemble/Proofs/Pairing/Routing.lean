import Ensemble.Proofs.Pairing.Failures

/-!
# Where each pair goes

The partial matrix lists a pair of items either among its results or among its failures.  It fails
if and only if one of its items does not satisfy the schema, so the pairs of positions are divided
by a test, and either part keeps their lexicographic order.
-/

namespace Ensemble

/-- The elements that have an image are related to their images, one by one. -/
theorem forall₂_filterMap {α β : Type} {R : α → β → Prop} {f : α → Option β} {xs : List α}
    (h : ∀ x ∈ xs, ∀ y, f x = some y → R x y) :
    List.Forall₂ R (xs.filter fun x => (f x).isSome) (xs.filterMap f) := by
  induction xs with
  | nil => exact .nil
  | cons x xs ih =>
    rw [List.forall_mem_cons] at h
    cases hx : f x with
    | none =>
      rw [List.filter_cons_of_neg (by simp [hx]), List.filterMap_cons_none hx]
      exact ih h.2
    | some y =>
      rw [List.filter_cons_of_pos (by simp [hx]), List.filterMap_cons_some hx]
      exact .cons (h.1 y hx) (ih h.2)

namespace Matcher

variable {matcher : Matcher} {catalog : Catalog} {a b : Item} {e : Error}

/-! ## The test -/

theorem isSome_failure? : (matcher.failure? a b).isSome = !(matcher.result? a b).isSome := by
  unfold failure? result?
  cases matcher.evaluatePair a b <;> rfl

/-- A pair fails if and only if one of its items does not satisfy the schema. -/
theorem isSome_failure?_iff :
    (matcher.failure? a b).isSome = true ↔
      ¬ (matcher.schema.validate a = .ok () ∧ matcher.schema.validate b = .ok ()) := by
  rw [← fault?_eq_none_iff, ← fault?_eq_none_iff, ← Option.isSome_map (f := (·.error)),
    error_failure?]
  cases matcher.fault? a <;> cases matcher.fault? b <;> simp

/-- The error of a pair is that of its first item, or else of its second. -/
def Blames (matcher : Matcher) (a b : Item) (e : Error) : Prop :=
  matcher.schema.validate a = .error e ∨
    matcher.schema.validate a = .ok () ∧ matcher.schema.validate b = .error e

theorem of_result?_eq_some {r : PairResult} (h : matcher.result? a b = some r) :
    matcher.evaluatePair a b = .ok r ∧ r.first = a.id ∧ r.second = b.id := by
  have hpair := toOption_eq_some_iff.1 h
  obtain ⟨_, -, hcompare⟩ := bind_eq_ok_iff.1 hpair
  obtain ⟨es, -, rfl⟩ := compare_eq_ok_iff.1 hcompare
  exact ⟨hpair, rfl, rfl⟩

theorem stamped_results? (hstill : matcher.clock.Still) {pairs : List (Item × Item)}
    {readings : Nat} :
    matcher.stamped readings (pairs.filterMap fun p => matcher.result? p.1 p.2)
      = pairs.filterMap fun p => matcher.result? p.1 p.2 := by
  refine stamped_of_still hstill fun r hr => ?_
  obtain ⟨p, -, hp⟩ := List.mem_filterMap.1 hr
  obtain ⟨_, -, hcompare⟩ := bind_eq_ok_iff.1 (toOption_eq_some_iff.1 hp)
  exact timestamp_of_compare hcompare

theorem of_failure?_eq_some {f : PairFailure} (h : matcher.failure? a b = some f) :
    matcher.Blames a b f.error ∧ f.first = a.id ∧ f.second = b.id := by
  unfold failure? at h
  cases hpair : matcher.evaluatePair a b with
  | ok r =>
    rw [hpair] at h
    cases h
  | error e =>
    rw [hpair] at h
    obtain rfl := Option.some.inj h
    exact ⟨validatePair_eq_error_iff.1 (evaluatePair_eq_error_iff.1 hpair), rfl, rfl⟩

/-! ## The two parts -/

/-- The pairs of positions that a partial matrix has results for, and those that it has failures
for. -/
structure Routes (matcher : Matcher) (catalog : Catalog) (kept failed : List (Nat × Nat)) :
    Prop where
  kept_lexicographic : kept.Pairwise (Prod.Lex (· < ·) (· < ·))
  failed_lexicographic : failed.Pairwise (Prod.Lex (· < ·) (· < ·))
  /-- No pair is listed twice, and none is listed in both parts. -/
  nodup : (kept ++ failed).Nodup
  /-- Every pair is listed. -/
  mem : ∀ i j, (i, j) ∈ kept ++ failed ↔ i < j ∧ j < catalog.size
  length : kept.length + failed.length = catalog.size * (catalog.size - 1) / 2
  mem_failed : ∀ i j a b, i < j → catalog.items[i]? = some a → catalog.items[j]? = some b →
    ((i, j) ∈ failed ↔
      ¬ (matcher.schema.validate a = .ok () ∧ matcher.schema.validate b = .ok ()))
  results : List.Forall₂ (fun p r => ∃ a b,
    catalog.items[p.1]? = some a ∧ catalog.items[p.2]? = some b ∧
      matcher.evaluatePair a b = .ok r ∧ r.first = a.id ∧ r.second = b.id)
    kept (matcher.partialMatrix catalog).matrix.results
  failures : List.Forall₂ (fun p f => ∃ a b,
    catalog.items[p.1]? = some a ∧ catalog.items[p.2]? = some b ∧
      matcher.Blames a b f.error ∧ f.first = a.id ∧ f.second = b.id)
    failed (matcher.partialMatrix catalog).failures

/-- The positions of the pairs that pass a test. -/
def positionsWhere (catalog : Catalog) (test : Item → Item → Bool) : List (Nat × Nat) :=
  ((pairsOf catalog.items.zipIdx).filter fun p => test p.1.1 p.2.1).map fun p => (p.1.2, p.2.2)

theorem mem_positionsWhere {test : Item → Item → Bool} {i j : Nat} :
    (i, j) ∈ positionsWhere catalog test ↔
      ∃ a b, i < j ∧ catalog.items[i]? = some a ∧ catalog.items[j]? = some b ∧ test a b = true := by
  unfold positionsWhere
  simp only [List.mem_map, List.mem_filter, Prod.mk.injEq]
  constructor
  · rintro ⟨⟨⟨a, k⟩, ⟨b, l⟩⟩, ⟨hp, htest⟩, rfl, rfl⟩
    obtain ⟨hlt, ha, hb⟩ := mem_pairsOf_zipIdx.1 hp
    exact ⟨a, b, hlt, ha, hb, htest⟩
  · rintro ⟨a, b, hlt, ha, hb, htest⟩
    exact ⟨((a, i), (b, j)), ⟨mem_pairsOf_zipIdx.2 ⟨hlt, ha, hb⟩, htest⟩, rfl, rfl⟩

theorem lexicographic_positionsWhere (catalog : Catalog) (test : Item → Item → Bool) :
    (positionsWhere catalog test).Pairwise (Prod.Lex (· < ·) (· < ·)) := by
  refine (pairwise_positionPairs catalog.items.length).sublist ?_
  rw [← positions_pairsOf_zipIdx]
  exact List.filter_sublist.map _

/-- A test divides the pairs of positions. -/
theorem positionsWhere_perm (catalog : Catalog) (test : Item → Item → Bool) :
    (positionsWhere catalog test ++ positionsWhere catalog fun a b => !test a b).Perm
      (positionPairs catalog.size) := by
  unfold positionsWhere
  rw [← List.map_append, Catalog.size, ← positions_pairsOf_zipIdx]
  exact (List.filter_append_perm _ _).map _

/-- What the pairs are mapped to, beside the positions of those that have an image. -/
theorem forall₂_positionsWhere {α : Type} {f : Item → Item → Option α}
    {R : Item → Item → α → Prop} (h : ∀ a b y, f a b = some y → R a b y) :
    List.Forall₂ (fun p y => ∃ a b,
        catalog.items[p.1]? = some a ∧ catalog.items[p.2]? = some b ∧ R a b y)
      (positionsWhere catalog fun a b => (f a b).isSome)
      ((pairsOf catalog.items).filterMap fun p => f p.1 p.2) := by
  unfold positionsWhere
  rw [← elements_pairsOf_zipIdx catalog.items, List.filterMap_map, List.forall₂_map_left_iff]
  refine forall₂_filterMap fun ⟨⟨a, i⟩, ⟨b, j⟩⟩ hp y hy => ?_
  obtain ⟨-, ha, hb⟩ := mem_pairsOf_zipIdx.1 hp
  exact ⟨a, b, ha, hb, h a b y hy⟩

/-- The partial matrix of a catalog loses no pair and lists none twice: each pair of positions has
one result, the comparison of its items, or one failure, the error of an item that does not satisfy
the schema.  The clock stands still, as the comparison of a pair alone is made at another time. -/
theorem exists_routes (matcher : Matcher) (catalog : Catalog) (hstill : matcher.clock.Still) :
    ∃ kept failed, matcher.Routes catalog kept failed := by
  have hother : (positionsWhere catalog fun a b => !(matcher.result? a b).isSome)
      = positionsWhere catalog fun a b => (matcher.failure? a b).isSome := by
    simp only [isSome_failure?]
  have hperm := positionsWhere_perm catalog fun a b => (matcher.result? a b).isSome
  rw [hother] at hperm
  refine ⟨_, _, {
    kept_lexicographic := lexicographic_positionsWhere _ _
    failed_lexicographic := lexicographic_positionsWhere _ _
    nodup := hperm.nodup_iff.2 (nodup_positionPairs _)
    mem := fun i j => hperm.mem_iff.trans mem_positionPairs
    length := ?_
    mem_failed := fun i j a b hlt ha hb => ?_
    results := ?_
    failures := ?_ }⟩
  · rw [← List.length_append, hperm.length_eq, positionPairs, length_pairsOf, List.length_range]
  · rw [← isSome_failure?_iff, mem_positionsWhere]
    constructor
    · rintro ⟨a', b', -, ha', hb', hfails⟩
      rw [ha] at ha'
      rw [hb] at hb'
      cases ha'
      cases hb'
      exact hfails
    · exact fun hfails => ⟨a, b, hlt, ha, hb, hfails⟩
  · rw [partialMatrix_eq, stamped_results? hstill]
    exact forall₂_positionsWhere fun a b r => of_result?_eq_some
  · rw [partialMatrix_eq]
    exact forall₂_positionsWhere fun a b f => of_failure?_eq_some

/-- The one pair of the scraps has a failure, as the calico has no colour. -/
theorem exists_routes_scraps :
    patchwork.clock.Still ∧
      ∃ kept failed, patchwork.Routes scraps kept failed ∧ (0, 1) ∈ failed := by
  have hstill : patchwork.clock.Still := Clock.still_source ⟨0⟩
  obtain ⟨kept, failed, hroutes⟩ := exists_routes patchwork scraps hstill
  have hinvalid : ¬ (patchwork.schema.validate (fabric "denim" "navy") = .ok () ∧
      patchwork.schema.validate calico = .ok ()) := by decide +kernel
  have hfailed := (hroutes.mem_failed 0 1 _ _ Nat.zero_lt_one rfl rfl).2 hinvalid
  exact ⟨hstill, kept, failed, hroutes, hfailed⟩

end Matcher

end Ensemble
