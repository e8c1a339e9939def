import Ensemble.Proofs.Catalog.Building
import Ensemble.Proofs.Pairing.Matrix

/-!
# The partial matrix of a catalog

The partial matrix keeps a result or a failure for each pair, and each is what the comparison of the
pair alone gives, but for the time of a result.  If there is a pair at all, the first failure is
that of the first item that does not satisfy the schema, so the partial matrix and the matrix agree
on whether the comparison of a catalog succeeds.  A rejected item that is alone in its catalog
belongs to no pair, and then only the matrix reports it.
-/

namespace Ensemble

/-! ## Faults of pairs -/

/-- If there are pairs, the first fault in them is the first fault among the elements. -/
theorem findSome?_pairsOf {α β : Type} (fault? : α → Option β) {xs : List α}
    (hxs : pairsOf xs ≠ []) :
    (pairsOf xs).findSome? (fun p => (fault? p.1).or (fault? p.2)) = xs.findSome? fault? := by
  obtain _ | ⟨x, _ | ⟨y, ys⟩⟩ := xs
  · exact absurd rfl hxs
  · exact absurd rfl hxs
  generalize hrest : y :: ys = rest
  rw [pairsOf_cons, List.findSome?_append, List.findSome?_map, List.findSome?_cons]
  cases hx : fault? x with
  | some e =>
    rw [← hrest]
    simp [hx]
  | none =>
    -- The pairs of `x` report the first fault of the others, and the other pairs no other fault.
    have hothers : rest.findSome? ((fun p => (fault? p.1).or (fault? p.2)) ∘ (x, ·))
        = rest.findSome? fault? := by
      refine congrArg (List.findSome? · _) (funext fun z => ?_)
      simp [hx]
    rw [hothers]
    cases hy : rest.findSome? fault? with
    | some e => rfl
    | none =>
      rw [List.findSome?_eq_none_iff] at hy
      refine List.findSome?_eq_none_iff.2 fun p hp => ?_
      have hsub := mem_pairsOf_iff_sublist.1 hp
      rw [hy p.1 (hsub.subset (by simp)), hy p.2 (hsub.subset (by simp))]
      rfl

theorem pairsOf_eq_nil_iff {α : Type} {xs : List α} : pairsOf xs = [] ↔ xs.length ≤ 1 := by
  obtain _ | ⟨x, _ | ⟨y, ys⟩⟩ := xs <;> simp

namespace Matcher

variable {matcher : Matcher} {catalog : Catalog} {a b : Item} {e : Error}

/-- What is wrong with a pair is what is wrong with its first item, or else with its second. -/
theorem evaluatePair_eq_error_iff_fault :
    matcher.evaluatePair a b = .error e ↔ (matcher.fault? a).or (matcher.fault? b) = some e := by
  rw [evaluatePair_eq_error_iff, validatePair_eq_error_iff, ← fault?_eq_none_iff,
    ← fault?_eq_some_iff, ← fault?_eq_some_iff]
  cases matcher.fault? a <;> simp

/-! ## The pairs of a partial matrix -/

/-- The result of a pair, if it can be compared. -/
def result? (matcher : Matcher) (a b : Item) : Option PairResult :=
  (matcher.evaluatePair a b).toOption

/-- The failure of a pair, if it cannot be compared. -/
def failure? (matcher : Matcher) (a b : Item) : Option PairFailure :=
  match matcher.evaluatePair a b with
  | .ok _ => none
  | .error e => some ⟨a.id, b.id, e⟩

theorem error_failure? (matcher : Matcher) (a b : Item) :
    (matcher.failure? a b).map (·.error) = (matcher.fault? a).or (matcher.fault? b) := by
  unfold failure?
  cases hpair : matcher.evaluatePair a b with
  | error e => exact (evaluatePair_eq_error_iff_fault.1 hpair).symm
  | ok r =>
    symm
    refine Option.eq_none_iff_forall_ne_some.2 fun e he => ?_
    rw [evaluatePair_eq_error_iff_fault.2 he] at hpair
    cases hpair

/-- A checked comparison gives what the comparison of the pair alone gives, at another time. -/
theorem compareChecked_eq (matcher : Matcher) (readings : Nat) (a b : Item) :
    matcher.compareChecked readings (a, matcher.fault? a) (b, matcher.fault? b)
      = match matcher.evaluatePair a b with
        | .ok r => .inr { r with timestamp := matcher.clock.reading readings }
        | .error e => .inl ⟨a.id, b.id, e⟩ := by
  unfold compareChecked
  cases ha : matcher.fault? a with
  | some e =>
    have hpair : matcher.evaluatePair a b = .error e :=
      evaluatePair_eq_error_iff_fault.2 (by rw [ha]; rfl)
    rw [hpair]
  | none =>
    cases hb : matcher.fault? b with
    | some e =>
      have hpair : matcher.evaluatePair a b = .error e :=
        evaluatePair_eq_error_iff_fault.2 (by rw [ha, hb]; rfl)
      rw [hpair]
    | none =>
      have hpair := evaluatePair_eq_compare (fault?_eq_none_iff.1 ha) (fault?_eq_none_iff.1 hb)
      rw [hpair]
      dsimp only
      rw [compare_eq_map]
      cases matcher.compare 0 a b <;> rfl

/-- Two items with what is wrong with each. -/
def checked (matcher : Matcher) (p : Item × Item) : (Item × Option Error) × (Item × Option Error) :=
  ((p.1, matcher.fault? p.1), (p.2, matcher.fault? p.2))

/-- Of the pairs of a list, those that can be compared have results, with consecutive times, and the
others have failures. -/
theorem compareEach_eq (matcher : Matcher) (readings : Nat) (pairs : List (Item × Item)) :
    (matcher.compareEach readings (pairs.map matcher.checked)).filterMap (·.getRight?)
        = matcher.stamped readings (pairs.filterMap fun p => matcher.result? p.1 p.2) ∧
      (matcher.compareEach readings (pairs.map matcher.checked)).filterMap (·.getLeft?)
        = pairs.filterMap fun p => matcher.failure? p.1 p.2 := by
  induction pairs generalizing readings with
  | nil => exact ⟨rfl, rfl⟩
  | cons p pairs ih =>
    obtain ⟨a, b⟩ := p
    rw [List.map_cons, checked, compareEach, compareChecked_eq, List.filterMap_cons,
      List.filterMap_cons, result?, failure?]
    cases matcher.evaluatePair a b with
    | ok r =>
      obtain ⟨hresults, hfailures⟩ := ih (readings + 1)
      exact ⟨congrArg (_ :: ·) hresults, hfailures⟩
    | error e =>
      obtain ⟨hresults, hfailures⟩ := ih readings
      exact ⟨hresults, congrArg (_ :: ·) hfailures⟩

/-- The partial matrix sorts the outcomes of the pairs into results and failures. -/
theorem partialMatrix_eq (matcher : Matcher) (catalog : Catalog) :
    matcher.partialMatrix catalog = {
      matrix := .ofResults catalog.name matcher.rules.name
        (matcher.stamped 0 ((pairsOf catalog.items).filterMap fun p => matcher.result? p.1 p.2))
      failures := (pairsOf catalog.items).filterMap fun p => matcher.failure? p.1 p.2 } := by
  obtain ⟨hresults, hfailures⟩ := matcher.compareEach_eq 0 (pairsOf catalog.items)
  unfold partialMatrix
  rw [validateCatalog_eq_map, pairsOf_map, ← hresults, ← hfailures]
  rfl

/-! ## Agreement -/

theorem valid_of_matrix {m : Matrix} (h : matcher.matrix catalog = .ok m) (ha : a ∈ catalog.items) :
    matcher.schema.validate a = .ok () := by
  have hfaults : catalog.items.findSome? matcher.fault? = none := by
    refine Option.eq_none_iff_forall_ne_some.2 fun e he => ?_
    rw [matrix_eq_error_iff.2 he] at h
    cases h
  exact fault?_eq_none_iff.1 (List.findSome?_eq_none_iff.1 hfaults a ha)

/-- A matrix that can be made is the one that the partial matrix keeps, and no pair fails. -/
theorem partialMatrix_of_matrix {m : Matrix} (h : matcher.matrix catalog = .ok m) :
    matcher.partialMatrix catalog = ⟨m, []⟩ := by
  have hvalid : ∀ a ∈ catalog.items, matcher.schema.validate a = .ok () :=
    fun a ha => valid_of_matrix h ha
  obtain ⟨results, hresults, hmatrix⟩ := exists_results hvalid
  obtain rfl := Except.ok.inj (hmatrix.symm.trans h)
  have hpair : ∀ p ∈ pairsOf catalog.items,
      matcher.evaluatePair p.1 p.2 = matcher.compare 0 p.1 p.2 := by
    intro p hp
    have hsub := mem_pairsOf_iff_sublist.1 hp
    exact evaluatePair_eq_compare (hvalid _ (hsub.subset (by simp)))
      (hvalid _ (hsub.subset (by simp)))
  have hkept : (pairsOf catalog.items).filterMap (fun p => matcher.result? p.1 p.2) = results := by
    rw [← filterMap_of_mapM hresults]
    refine List.filterMap_congr fun p hp => ?_
    rw [result?, hpair p hp]
  have hfailed : (pairsOf catalog.items).filterMap (fun p => matcher.failure? p.1 p.2) = [] := by
    refine List.filterMap_eq_nil_iff.2 fun p hp => ?_
    obtain ⟨r, -, hr⟩ := exists_mem_of_mapM hresults hp
    rw [failure?, hpair p hp, hr]
  rw [partialMatrix_eq, hkept, hfailed]

/-- There is one reading of the time for each result, and none for a failure. -/
theorem timestamps_of_partialMatrix (matcher : Matcher) (catalog : Catalog) :
    (matcher.partialMatrix catalog).matrix.results.map (·.timestamp)
      = (List.range (matcher.partialMatrix catalog).matrix.results.length).map
          matcher.clock.reading := by
  rw [partialMatrix_eq, List.range_eq_range']
  exact timestamps_stamped

theorem timestamps_of_matrix {m : Matrix} (h : matcher.matrix catalog = .ok m) :
    m.results.map (·.timestamp) = (List.range m.results.length).map matcher.clock.reading := by
  have hreadings := matcher.timestamps_of_partialMatrix catalog
  rwa [partialMatrix_of_matrix h] at hreadings

/-- If there are pairs, the first failure carries the first fault among the items. -/
theorem error_head_failures (hpairs : pairsOf catalog.items ≠ []) :
    (matcher.partialMatrix catalog).failures.head?.map (·.error)
      = catalog.items.findSome? matcher.fault? := by
  rw [partialMatrix_eq, List.head?_filterMap, ← findSome?_pairsOf matcher.fault? hpairs,
    List.map_findSome?]
  refine congrArg (List.findSome? · _) (funext fun p => ?_)
  exact matcher.error_failure? p.1 p.2

/-- A matrix that fails has pairs, unless the only item is at fault. -/
theorem pairsOf_ne_nil_of_matrix
    (halone : ∀ a, catalog.items = [a] → matcher.schema.validate a = .ok ())
    (h : matcher.matrix catalog = .error e) : pairsOf catalog.items ≠ [] := by
  obtain ⟨a, ha, hinvalid⟩ := exists_invalid_of_matrix h
  intro hnil
  rw [pairsOf_eq_nil_iff] at hnil
  obtain ⟨b, hb⟩ := List.length_eq_one_iff.1 (le_antisymm hnil (List.length_pos_of_mem ha))
  obtain rfl := List.mem_singleton.1 (hb ▸ ha)
  rw [halone a hb] at hinvalid
  cases hinvalid

/-- The matrix and the partial matrix agree on whether the comparison of a catalog succeeds, on the
results, and on the first error, unless the only item of the catalog does not satisfy the schema.
Such an item is an error of the matrix, but it belongs to no pair that could fail. -/
theorem partialMatrix_agrees (matcher : Matcher) (catalog : Catalog) :
    ((∀ a, catalog.items = [a] → matcher.schema.validate a = .ok ()) →
      ((∃ m, matcher.matrix catalog = .ok m) ↔
        (matcher.partialMatrix catalog).isComplete = true) ∧
      (∀ m, matcher.matrix catalog = .ok m → (matcher.partialMatrix catalog).matrix = m) ∧
      ∀ e, matcher.matrix catalog = .error e →
        ∃ f, (matcher.partialMatrix catalog).failures.head? = some f ∧ f.error = e) ∧
    ∀ a e, catalog.items = [a] → matcher.schema.validate a = .error e →
      matcher.matrix catalog = .error e ∧ matcher.partialMatrix catalog
        = ⟨.ofResults catalog.name matcher.rules.name [], []⟩ := by
  refine ⟨fun halone => ?_, fun a e hitems hinvalid => ?_⟩
  · have hfirst : ∀ e, matcher.matrix catalog = .error e →
        ∃ f, (matcher.partialMatrix catalog).failures.head? = some f ∧ f.error = e := by
      intro e he
      have hpairs : pairsOf catalog.items ≠ [] := pairsOf_ne_nil_of_matrix halone he
      rw [matrix_eq_error_iff, ← error_head_failures hpairs] at he
      exact Option.map_eq_some_iff.1 he
    refine ⟨⟨?_, ?_⟩, ?_, hfirst⟩
    · rintro ⟨m, hm⟩
      rw [partialMatrix_of_matrix hm]
      rfl
    · intro hcomplete
      cases hm : matcher.matrix catalog with
      | ok m => exact ⟨m, rfl⟩
      | error e =>
        obtain ⟨f, hf, -⟩ := hfirst e hm
        rw [PartialMatrix.isComplete, List.isEmpty_iff] at hcomplete
        rw [hcomplete] at hf
        cases hf
    · intro m hm
      rw [partialMatrix_of_matrix hm]
  · constructor
    · rw [matrix_eq_error_iff, hitems, List.findSome?_cons, fault?_eq_some_iff.2 hinvalid]
    · rw [partialMatrix_eq, hitems]
      rfl

/-! ## Remnants -/

/-- A fabric without a colour. -/
def calico : Item := { id := ⟨"calico"⟩, name := "calico" }

/-- The schema of fabrics about which nothing is known. -/
def remnants : Schema := ⟨"remnants", "1", [], .allow, by decide⟩

/-- A calico, and nothing else. -/
def offcut : Catalog := .holding "offcut" remnants [calico] (by decide) (by decide +kernel)

/-- A denim and a calico. -/
def scraps : Catalog :=
  .holding "scraps" remnants [fabric "denim" "navy", calico] (by decide) (by decide +kernel)

/-- The calico of the scraps is an error of the matrix, and the first failure of the partial one.
Alone it is an error of the matrix only. -/
theorem partialMatrix_agrees_scraps :
    (∀ a, scraps.items = [a] → patchwork.schema.validate a = .ok ()) ∧
    (∃ e f, patchwork.matrix scraps = .error e ∧
      (patchwork.partialMatrix scraps).failures.head? = some f ∧ f.error = e) ∧
    ∃ e, offcut.items = [calico] ∧ patchwork.schema.validate calico = .error e ∧
      patchwork.matrix offcut = .error e ∧ (patchwork.partialMatrix offcut).failures = [] := by
  have hpair : ∀ a, scraps.items = [a] → patchwork.schema.validate a = .ok () :=
    fun a ha => nomatch (List.cons.inj ha).2
  obtain ⟨-, -, hfirst⟩ := (partialMatrix_agrees patchwork scraps).1 hpair
  obtain ⟨e, he⟩ : ∃ e, patchwork.matrix scraps = .error e := exists_error_iff.2 (by decide +kernel)
  obtain ⟨f, hf, hfe⟩ := hfirst e he
  obtain ⟨e', he'⟩ : ∃ e, patchwork.schema.validate calico = .error e :=
    exists_error_iff.2 (by decide +kernel)
  obtain ⟨hmatrix, hpartial⟩ := (partialMatrix_agrees patchwork offcut).2 calico e' rfl he'
  exact ⟨hpair, ⟨e, f, he, hf, hfe⟩, e', rfl, he', hmatrix, by rw [hpartial]⟩

/-- The matrix of the offcut fails, although its partial matrix is complete. -/
theorem partialMatrix_complete_of_rejected :
    ¬ ((∃ m, patchwork.matrix offcut = .ok m) ↔
      (patchwork.partialMatrix offcut).isComplete = true) := by
  obtain ⟨e, he⟩ : ∃ e, patchwork.matrix offcut = .error e := exists_error_iff.2 (by decide +kernel)
  have hcomplete : (patchwork.partialMatrix offcut).isComplete = true := by decide +kernel
  intro hagree
  obtain ⟨m, hm⟩ := hagree.2 hcomplete
  rw [he] at hm
  cases hm

end Matcher

end Ensemble
