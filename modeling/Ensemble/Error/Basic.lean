import Ensemble.Error.Violation

/-!
# Errors

An error is a cause with, optionally, the place where it arose.  The place is filled in while the
error travels outwards: what is recorded first stays, and frames of a condition path are put in
front, so that a path reads from the outside in.
-/

namespace Ensemble

/-! ## Causes -/

/-- When an error is found. -/
inductive Stage where
  /-- While schemas, rules and searches are set up. -/
  | configuration
  /-- While the attributes of an item are checked against a schema. -/
  | schemaValidation
  /-- While operators run. -/
  | evaluation
  /-- Never, unless the library itself is wrong. -/
  | internal
  deriving DecidableEq, Repr

/-- The name of a stage. -/
def Stage.name : Stage → String
  | .configuration => "Configuration"
  | .schemaValidation => "SchemaValidation"
  | .evaluation => "Evaluation"
  | .internal => "Internal"

/-- What went wrong. -/
inductive Cause where
  /-- No operator has this name. -/
  | unknownOperator (name : String)
  /-- A condition document breaks the grammar of conditions. -/
  | malformedCondition (message : String)
  /-- A schema document is not a schema. -/
  | malformedSchema (message : String)
  /-- A parameter of an operator is missing or has the wrong shape. -/
  | invalidParameter (operator parameter message : String)
  /-- The least cluster size is above the greatest. -/
  | invalidClusterBounds (min max : Nat)
  /-- A rule reads a field that the schema does not declare. -/
  | unknownField (field : String)
  /-- An operator is applied to a dimension that it cannot read. -/
  | incompatibleField (operator field message : String)
  | duplicateDimension (name : String)
  | duplicateRule (name : String)
  | duplicateItem (id : String)
  /-- A catalog has no item with this id. -/
  | unknownItem (id : String)
  /-- An attribute fails a check of its dimension. -/
  | schemaViolation (dimension : String) (violation : Violation)
  /-- An operator needs a field that no item carries. -/
  | missingField (field : String)
  /-- A value has the wrong type for an operator. -/
  | typeMismatch (field : String) (expected actual : ValueType)
  /-- An operator that aggregates was given no items. -/
  | emptyItemSet (operator : String)
  | internal (message : String)
  deriving DecidableEq

namespace Cause

/-- The stage that a cause belongs to. -/
def stage : Cause → Stage
  | .schemaViolation .. => .schemaValidation
  | .missingField _ | .typeMismatch .. | .emptyItemSet _ => .evaluation
  | .internal _ => .internal
  | _ => .configuration

/-- The name of a cause. -/
def name : Cause → String
  | .unknownOperator _ => "UnknownOperator"
  | .malformedCondition _ => "MalformedCondition"
  | .malformedSchema _ => "MalformedSchema"
  | .invalidParameter .. => "InvalidParameter"
  | .invalidClusterBounds .. => "InvalidClusterBounds"
  | .unknownField _ => "UnknownField"
  | .incompatibleField .. => "IncompatibleField"
  | .duplicateDimension _ => "DuplicateDimension"
  | .duplicateRule _ => "DuplicateRule"
  | .duplicateItem _ => "DuplicateItem"
  | .unknownItem _ => "UnknownItem"
  | .schemaViolation .. => "SchemaViolation"
  | .missingField _ => "MissingField"
  | .typeMismatch .. => "TypeMismatch"
  | .emptyItemSet _ => "EmptyItemSet"
  | .internal _ => "Internal"

/-- The message for a cause. -/
def message : Cause → String
  | .unknownOperator name => "unknown operator: " ++ name
  | .malformedCondition message => "malformed condition: " ++ message
  | .malformedSchema message => "malformed schema: " ++ message
  | .invalidParameter operator parameter message =>
    "invalid parameter `" ++ parameter ++ "` for operator " ++ operator ++ ": " ++ message
  | .invalidClusterBounds min max =>
    "invalid cluster bounds: min_cluster_size " ++ toString min ++ " > max_cluster_size "
      ++ toString max
  | .unknownField field => "unknown field: " ++ field
  | .incompatibleField operator field message =>
    "operator " ++ operator ++ " cannot use field " ++ field ++ ": " ++ message
  | .duplicateDimension name => "duplicate dimension: " ++ name
  | .duplicateRule name => "duplicate rule: " ++ name
  | .duplicateItem id => "duplicate item: " ++ id
  | .unknownItem id => "unknown item: " ++ id
  | .schemaViolation dimension violation =>
    "schema violation on dimension " ++ dimension ++ ": " ++ violation.message
  | .missingField field => "missing field: " ++ field
  | .typeMismatch field expected actual =>
    "type mismatch on field " ++ field ++ ": " ++ Violation.typeClash expected actual
  | .emptyItemSet operator => "operator " ++ operator ++ " evaluated on an empty item set"
  | .internal message => "internal error: " ++ message

end Cause

/-! ## Places -/

/-- Where an error arose. -/
structure Place where
  item : Option String := none
  /-- The second item of a pair. -/
  otherItem : Option String := none
  rule : Option String := none
  operator : Option String := none
  /-- The path of condition nodes to the error, from the outside in. -/
  path : List String := []
  deriving DecidableEq, Repr, Inhabited

namespace Place

/-- The place in words, the known parts separated by commas. -/
def message (place : Place) : String :=
  let items := match place.item, place.otherItem with
    | some a, some b => ["items " ++ a ++ ", " ++ b]
    | some a, none => ["item " ++ a]
    | none, _ => []
  let rule := place.rule.toList.map ("rule " ++ ·)
  let operator := place.operator.toList.map ("operator " ++ ·)
  let path := if place.path.isEmpty then [] else ["at " ++ " > ".intercalate place.path]
  ", ".intercalate (items ++ rule ++ operator ++ path)

end Place

/-! ## Errors -/

/-- A cause with the place where it arose, as far as that is known. -/
structure Error where
  cause : Cause
  place : Option Place := none
  deriving DecidableEq

namespace Error

instance : Coe Cause Error := ⟨fun cause => ⟨cause, none⟩⟩

/-- The stage that an error belongs to. -/
def stage (e : Error) : Stage := e.cause.stage

/-- The message for an error, followed by its place. -/
def message (e : Error) : String :=
  e.cause.message ++ match e.place with
    | some place => " (" ++ place.message ++ ")"
    | none => ""

/-- Changes the place of an error. -/
def atPlace (e : Error) (change : Place → Place) : Error :=
  { e with place := some (change (e.place.getD {})) }

/-- Records the item, unless one is recorded. -/
def withItem (e : Error) (item : String) : Error :=
  e.atPlace fun place => if place.item.isNone then { place with item := some item } else place

/-- Records the pair of items, unless an item is recorded. -/
def withPair (e : Error) (first second : String) : Error :=
  e.atPlace fun place =>
    if place.item.isNone then { place with item := some first, otherItem := some second } else place

/-- Records the rule, unless one is recorded. -/
def withRule (e : Error) (rule : String) : Error :=
  e.atPlace fun place => if place.rule.isNone then { place with rule := some rule } else place

/-- Records the operator, unless one is recorded. -/
def withOperator (e : Error) (operator : String) : Error :=
  e.atPlace fun place =>
    if place.operator.isNone then { place with operator := some operator } else place

/-- Puts a frame in front of the path. -/
def inFrame (e : Error) (frame : String) : Error :=
  e.atPlace fun place => { place with path := frame :: place.path }

/-- Replaces the place. -/
def withPlace (e : Error) (place : Place) : Error := { e with place := some place }

end Error

end Ensemble
