import Ensemble.Catalog.Item
import Ensemble.Rules.Evaluation

/-!
# Results of comparing two items
-/

namespace Ensemble

/-- What the rules say about two items. -/
structure PairResult where
  first : ItemId
  second : ItemId
  compatible : Bool
  /-- One evaluation for each rule. -/
  evaluations : List RuleEvaluation
  /-- When the items were compared, in milliseconds. -/
  timestamp : UInt64
  deriving DecidableEq

namespace PairResult

/-- Whether a result is about two ids, in either order. -/
def involves (result : PairResult) (a b : ItemId) : Bool :=
  (result.first == a && result.second == b) || (result.first == b && result.second == a)

/-- The evaluations of the rules that fail. -/
def failures (result : PairResult) : List RuleEvaluation :=
  RuleEvaluation.failures result.evaluations

/-! ## Documents -/

/-- The document of a result. -/
def toDocument (result : PairResult) : Document :=
  Document.ofFields
    [("item1_id", result.first.toDocument), ("item2_id", result.second.toDocument),
     ("compatible", .bool result.compatible),
     ("rule_evaluations", .array (result.evaluations.map RuleEvaluation.toDocument)),
     ("timestamp", .ofNat result.timestamp.toNat)]

namespace Field

/-- The first item. -/
def first : Field ItemId := .required "item1_id" ItemId.ofDocument

/-- The second item. -/
def second : Field ItemId := .required "item2_id" ItemId.ofDocument

/-- The verdict. -/
def compatible : Field Bool := .required "compatible" Document.toBool

/-- The evaluations. -/
def evaluations : Field (List RuleEvaluation) :=
  .required "rule_evaluations" (Document.toList RuleEvaluation.ofDocument)

/-- The time. -/
def timestamp : Field UInt64 := .required "timestamp" Document.toWord

end Field

/-- The result that a document holds. -/
def ofDocument (d : Document) : Except Fault PairResult := do
  let fields ← Record.read .ignored
    [Field.first.check, Field.second.check, Field.compatible.check, Field.evaluations.check,
     Field.timestamp.check] d
  return {
    first := ← Field.first.of fields
    second := ← Field.second.of fields
    compatible := ← Field.compatible.of fields
    evaluations := ← Field.evaluations.of fields
    timestamp := ← Field.timestamp.of fields }

end PairResult

end Ensemble
