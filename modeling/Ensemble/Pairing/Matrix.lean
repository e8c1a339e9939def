import Ensemble.Error.Basic
import Ensemble.Pairing.Result

/-!
# Matrices

A matrix holds the results for the pairs of items of a catalog, each pair once, with the number of
compatible ones.
-/

namespace Ensemble

/-- The results for the pairs of items of a catalog. -/
structure Matrix where
  catalog : String
  rules : String
  results : List PairResult
  total : Nat
  compatible : Nat
  /-- The part of the pairs that are compatible; zero when there are none. -/
  rate : Float
  deriving DecidableEq

namespace Matrix

/-- The matrix of the given results. -/
def ofResults (catalog rules : String) (results : List PairResult) : Matrix :=
  let total := results.length
  let compatible := (results.filter (·.compatible)).length
  { catalog, rules, results, total, compatible
    rate := if total = 0 then 0 else Float.ofNat compatible / Float.ofNat total }

/-- The result for two ids, in either order. -/
def get? (matrix : Matrix) (a b : ItemId) : Option PairResult :=
  matrix.results.find? (·.involves a b)

/-- The ids of the compatible pairs. -/
def compatiblePairs (matrix : Matrix) : List (ItemId × ItemId) :=
  (matrix.results.filter (·.compatible)).map fun result => (result.first, result.second)

/-! ## Documents -/

/-- The document of a matrix. -/
def toDocument (matrix : Matrix) : Document :=
  Document.ofFields
    [("catalog", .text matrix.catalog), ("ruleset", .text matrix.rules),
     ("results", .array (matrix.results.map PairResult.toDocument)),
     ("total_comparisons", .ofNat matrix.total), ("compatible_count", .ofNat matrix.compatible),
     ("compatibility_rate", .ofFloat matrix.rate)]

namespace Field

/-- The name of the catalog. -/
def catalog : Field String := .required "catalog" Document.toText

/-- The name of the rule set. -/
def rules : Field String := .required "ruleset" Document.toText

/-- The results. -/
def results : Field (List PairResult) :=
  .required "results" (Document.toList PairResult.ofDocument)

/-- The number of pairs. -/
def total : Field Nat := .required "total_comparisons" Document.toCount

/-- The number of compatible pairs. -/
def compatible : Field Nat := .required "compatible_count" Document.toCount

/-- The part of the pairs that are compatible. -/
def rate : Field Float := .required "compatibility_rate" Document.toNumber

end Field

/-- The matrix that a document holds. -/
def ofDocument (d : Document) : Except Fault Matrix := do
  let fields ← Record.read .ignored
    [Field.catalog.check, Field.rules.check, Field.results.check, Field.total.check,
     Field.compatible.check, Field.rate.check] d
  return {
    catalog := ← Field.catalog.of fields
    rules := ← Field.rules.of fields
    results := ← Field.results.of fields
    total := ← Field.total.of fields
    compatible := ← Field.compatible.of fields
    rate := ← Field.rate.of fields }

end Matrix

/-! ## Partial matrices -/

/-- A pair of items that could not be compared. -/
structure PairFailure where
  first : ItemId
  second : ItemId
  error : Error
  deriving DecidableEq

/-- The results for the pairs that could be compared, beside the others. -/
structure PartialMatrix where
  matrix : Matrix
  failures : List PairFailure
  deriving DecidableEq

/-- Whether every pair could be compared. -/
def PartialMatrix.isComplete (m : PartialMatrix) : Bool := m.failures.isEmpty

end Ensemble
