import Ensemble.Proofs.Cluster.Compatibility
import Ensemble.Proofs.Pairing.Matrix

/-!
# Comparisons of bound rules

Rules that are bound to a schema never fail while their operators run, neither on two items nor on
all pairs of a catalog.  In particular the graph of compatible pairs can always be built.
-/

namespace Ensemble

namespace ClusterFinder

variable {finder : ClusterFinder} {a b : Item}

theorem validate_of_mem (ha : a ∈ finder.catalog.items) :
    finder.matcher.schema.validate a = .ok () := by
  rw [finder.schema_eq]
  exact finder.catalog.valid a ha

theorem exists_passes (ha : a ∈ finder.catalog.items) (hb : b ∈ finder.catalog.items) :
    ∃ v, finder.matcher.passes a b = .ok v := by
  obtain ⟨r, -, hpass⟩ := finder.matcher.exists_result 0 (validate_of_mem ha) (validate_of_mem hb)
  exact ⟨r.compatible, hpass⟩

/-- The graph of compatible pairs can always be built. -/
theorem exists_graph (finder : ClusterFinder) : ∃ g, finder.graph = .ok g := by
  have hpass : ∀ p ∈ pairsOf finder.catalog.items.zipIdx,
      ∃ v, finder.matcher.passes p.1.1 p.2.1 = .ok v := by
    rintro ⟨⟨a, i⟩, ⟨b, j⟩⟩ hp
    obtain ⟨-, ha, hb⟩ := mem_pairsOf_zipIdx.1 hp
    exact exists_passes (List.mem_of_getElem? ha) (List.mem_of_getElem? hb)
  rw [graph_eq_ofEdges, filterM_eq_ok_iff.2 ⟨hpass, rfl⟩]
  exact ⟨_, rfl⟩

end ClusterFinder

namespace Matcher

/-- Binding makes comparisons safe: a pair fails if and only if one of its items is rejected by the
schema, with the error of the first such item, and no operator ever fails. -/
theorem comparison_safe (matcher : Matcher) :
    (∀ a b e, matcher.evaluatePair a b = .error e ↔
      matcher.schema.validate a = .error e ∨
        matcher.schema.validate a = .ok () ∧ matcher.schema.validate b = .error e) ∧
    (∀ a b, FailsOnly (·.stage ≠ .evaluation) (matcher.evaluatePair a b)) ∧
    (∀ a b, FailsOnly (·.stage ≠ .evaluation) (matcher.isCompatible a b)) ∧
    (∀ catalog, FailsOnly (·.stage ≠ .evaluation) (matcher.matrix catalog)) ∧
    ∀ finder : ClusterFinder, ∃ g, finder.graph = .ok g := by
  refine ⟨fun a b e => ?_, ?_, ?_, ?_, ?_⟩
  · rw [evaluatePair_eq_error_iff, validatePair_eq_error_iff]
  · exact matcher.failsOnly_evaluatePair
  · exact matcher.failsOnly_isCompatible
  · exact matcher.failsOnly_matrix
  · exact ClusterFinder.exists_graph

/-- A fabric without a colour, which the schema does not accept. -/
def undyed : Item := { id := ⟨"felt"⟩, name := "felt" }

theorem comparison_safe_patchwork :
    ∃ e, patchwork.schema.validate undyed = .error e ∧
      patchwork.evaluatePair (fabric "denim" "navy") undyed = .error e ∧
      e.cause.stage ≠ .evaluation := by
  obtain ⟨hiff, hfails, -⟩ := comparison_safe patchwork
  have hdenim : patchwork.schema.validate (fabric "denim" "navy") = .ok () := by decide +kernel
  obtain ⟨e, hundyed⟩ : ∃ e, patchwork.schema.validate undyed = .error e :=
    exists_error_iff.2 (by decide +kernel)
  have hpair := (hiff (fabric "denim" "navy") undyed e).2 (.inr ⟨hdenim, hundyed⟩)
  exact ⟨e, hundyed, hpair, hfails _ _ e hpair⟩

end Matcher

end Ensemble
