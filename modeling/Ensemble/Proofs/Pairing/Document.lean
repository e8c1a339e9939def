import Ensemble.Pairing.Matcher
import Ensemble.Proofs.Document.Record
import Ensemble.Proofs.Value.Quotient

/-!
# Matrices in documents

The results of comparing items are printed as documents that are read as the same results again.
Their counts have to be words of 64 bits, as other counts are not read, and their rate has to be
finite, as JSON cannot write another one.
-/

namespace Ensemble

/-! ## Evaluations -/

namespace RuleEvaluation

theorem ofDocument_toDocument (e : RuleEvaluation) : ofDocument e.toDocument = .ok e := by
  obtain ⟨fields, hread, hcells⟩ := Record.exists_read_cells .ignored
    [⟨Field.ruleName, e.ruleName, .text e.ruleName, rfl⟩,
     ⟨Field.passed, e.passed, .bool e.passed, rfl⟩,
     ⟨Field.reason, e.reason, .text e.reason, rfl⟩]
    (show ["rule_name", "passed", "reason"].Nodup by decide)
  simp only [List.forall_mem_cons] at hcells
  obtain ⟨hname, hpassed, hreason, -⟩ := hcells
  refine bind_eq_ok_iff.2 ⟨fields, hread, ?_⟩
  simp only [hname, hpassed, hreason, ok_bind, pure_eq_ok]

end RuleEvaluation

/-! ## Results of two items -/

theorem ItemId.ofDocument_toDocument (id : ItemId) : ofDocument id.toDocument = .ok id := rfl

namespace PairResult

theorem ofDocument_toDocument (r : PairResult) : ofDocument r.toDocument = .ok r := by
  have hevaluations : Field.evaluations.read (.array (r.evaluations.map RuleEvaluation.toDocument))
      = .ok r.evaluations := Document.toList_map fun e _ => e.ofDocument_toDocument
  obtain ⟨fields, hread, hcells⟩ := Record.exists_read_cells .ignored
    [⟨Field.first, r.first, r.first.toDocument, rfl⟩,
     ⟨Field.second, r.second, r.second.toDocument, rfl⟩,
     ⟨Field.compatible, r.compatible, .bool r.compatible, rfl⟩,
     ⟨Field.evaluations, r.evaluations, .array (r.evaluations.map RuleEvaluation.toDocument),
      hevaluations⟩,
     ⟨Field.timestamp, r.timestamp, .ofNat r.timestamp.toNat, Document.toWord_ofNat r.timestamp⟩]
    (show ["item1_id", "item2_id", "compatible", "rule_evaluations", "timestamp"].Nodup by decide)
  simp only [List.forall_mem_cons] at hcells
  obtain ⟨hfirst, hsecond, hcompatible, hevaluations, htimestamp, -⟩ := hcells
  refine bind_eq_ok_iff.2 ⟨fields, hread, ?_⟩
  simp only [hfirst, hsecond, hcompatible, hevaluations, htimestamp, ok_bind, pure_eq_ok]

end PairResult

/-! ## Matrices -/

namespace Matrix

variable {m : Matrix} {catalog rules : String} {results : List PairResult}

theorem ofDocument_toDocument (htotal : m.total < UInt64.size)
    (hcompatible : m.compatible < UInt64.size) (hrate : m.rate.isFinite = true) :
    ofDocument m.toDocument = .ok m := by
  have hresults : Field.results.read (.array (m.results.map PairResult.toDocument))
      = .ok m.results := Document.toList_map fun r _ => r.ofDocument_toDocument
  have htotal : Field.total.read (.ofNat m.total) = .ok m.total := Document.toCount_ofNat htotal
  have hcompatible : Field.compatible.read (.ofNat m.compatible) = .ok m.compatible :=
    Document.toCount_ofNat hcompatible
  have hrate : Field.rate.read (.ofFloat m.rate) = .ok m.rate := Document.toNumber_ofFloat hrate
  obtain ⟨fields, hread, hcells⟩ := Record.exists_read_cells .ignored
    [⟨Field.catalog, m.catalog, .text m.catalog, rfl⟩,
     ⟨Field.rules, m.rules, .text m.rules, rfl⟩,
     ⟨Field.results, m.results, .array (m.results.map PairResult.toDocument), hresults⟩,
     ⟨Field.total, m.total, .ofNat m.total, htotal⟩,
     ⟨Field.compatible, m.compatible, .ofNat m.compatible, hcompatible⟩,
     ⟨Field.rate, m.rate, .ofFloat m.rate, hrate⟩]
    (show ["catalog", "ruleset", "results", "total_comparisons", "compatible_count",
      "compatibility_rate"].Nodup by decide)
  simp only [List.forall_mem_cons] at hcells
  obtain ⟨hcatalog, hrules, hresults, htotal, hcompatible, hrate, -⟩ := hcells
  refine bind_eq_ok_iff.2 ⟨fields, hread, ?_⟩
  simp only [hcatalog, hrules, hresults, htotal, hcompatible, hrate, ok_bind, pure_eq_ok]

theorem isFinite_rate_ofResults (h : results.length < UInt64.size) :
    (ofResults catalog rules results).rate.isFinite = true :=
  isFinite_quotient ((List.length_filter_le ..).trans_lt h) h id

theorem ofDocument_ofResults (h : results.length < UInt64.size) :
    ofDocument (ofResults catalog rules results).toDocument
      = .ok (ofResults catalog rules results) :=
  ofDocument_toDocument h ((List.length_filter_le ..).trans_lt h) (isFinite_rate_ofResults h)

end Matrix

theorem Matcher.exists_results_of_matrix {matcher : Matcher} {catalog : Catalog} {m : Matrix}
    (h : matcher.matrix catalog = .ok m) :
    ∃ results, m = .ofResults catalog.name matcher.rules.name results := by
  unfold matrix at h
  split at h
  · cases h
  · obtain ⟨results, -, h⟩ := bind_eq_ok_iff.1 h
    exact ⟨results, (Except.ok.inj h).symm⟩

end Ensemble
