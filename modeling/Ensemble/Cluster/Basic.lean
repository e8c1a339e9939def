import Ensemble.Catalog.Item
import Ensemble.Rules.Evaluation

/-!
# Clusters

A cluster is a set of items with what the rules say about it.
-/

namespace Ensemble

/-- A set of items with what the rules say about it. -/
structure Cluster where
  /-- In ascending order. -/
  itemIds : List ItemId
  size : Nat
  evaluations : List RuleEvaluation
  /-- Whether the set may be used. -/
  isValid : Bool
  /-- Whether no further item can be added to the set. -/
  isMaximum : Bool
  deriving DecidableEq

namespace Cluster

/-- Whether an id is in an ascending list, by halving. -/
def findId (id : ItemId) (ids : List ItemId) : Bool :=
  match h : ids.drop (ids.length / 2) with
  | [] => false
  | middle :: later =>
    if middle = id then true
    else if middle.text < id.text then findId id later
    else findId id (ids.take (ids.length / 2))
termination_by ids.length
decreasing_by
  · have := congrArg List.length h
    simp at this
    omega
  · have := congrArg List.length h
    simp at this ⊢
    omega

/-- Whether an item is in the cluster. -/
def contains (cluster : Cluster) (id : ItemId) : Bool := findId id cluster.itemIds

/-! ## Documents -/

/-- The document of a cluster. -/
def toDocument (cluster : Cluster) : Document :=
  Document.ofFields
    [("item_ids", .array (cluster.itemIds.map ItemId.toDocument)), ("size", .ofNat cluster.size),
     ("rule_evaluations", .array (cluster.evaluations.map RuleEvaluation.toDocument)),
     ("is_valid", .bool cluster.isValid), ("is_maximum", .bool cluster.isMaximum)]

namespace Field

/-- The items. -/
def itemIds : Field (List ItemId) := .required "item_ids" (Document.toList ItemId.ofDocument)

/-- The number of items. -/
def size : Field Nat := .required "size" Document.toCount

/-- The evaluations. -/
def evaluations : Field (List RuleEvaluation) :=
  .required "rule_evaluations" (Document.toList RuleEvaluation.ofDocument)

/-- Whether the set may be used. -/
def isValid : Field Bool := .required "is_valid" Document.toBool

/-- Whether no further item can be added. -/
def isMaximum : Field Bool := .required "is_maximum" Document.toBool

end Field

/-- The cluster that a document holds. -/
def ofDocument (d : Document) : Except Fault Cluster := do
  let fields ← Record.read .ignored
    [Field.itemIds.check, Field.size.check, Field.evaluations.check, Field.isValid.check,
     Field.isMaximum.check] d
  return {
    itemIds := ← Field.itemIds.of fields
    size := ← Field.size.of fields
    evaluations := ← Field.evaluations.of fields
    isValid := ← Field.isValid.of fields
    isMaximum := ← Field.isMaximum.of fields }

end Cluster

end Ensemble
