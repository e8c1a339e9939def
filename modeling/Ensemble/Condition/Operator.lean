import Ensemble.Condition.Outcome
import Ensemble.Condition.Params
import Ensemble.Schema.Basic

/-!
# Operators

An operator is a leaf of a condition.  There are two families: the ones over two items and the ones
over a set of items.  Each is a type with an instance of `Operator`; names are resolved, and
parameters checked, when a condition is read.
-/

namespace Ensemble

/-! ## Families -/

/-- What the operators of a family bind. -/
inductive Family where
  /-- Two items. -/
  | pairwise
  /-- A set of items. -/
  | cluster
  deriving DecidableEq, Repr

namespace Family

/-- The name used in messages. -/
def name : Family → String
  | .pairwise => "pairwise"
  | .cluster => "cluster"

/-- The names of the operators of a family. -/
def operatorNames : Family → List String
  | .pairwise =>
    ["equals", "has_different", "abs_diff", "has_value", "same_list_item", "formality_compatible",
     "layer_compatible"]
  | .cluster =>
    ["min_cluster_size", "max_cluster_size", "unique_values", "has_item_with", "count_by_field",
     "formality_range"]

/-- The names of all operators. -/
def allOperatorNames : List String := pairwise.operatorNames ++ cluster.operatorNames

/-- The family of the operator with a name. -/
def ofOperator? (name : String) : Option Family :=
  if name ∈ pairwise.operatorNames then some .pairwise
  else if name ∈ cluster.operatorNames then some .cluster
  else none

end Family

/-- The operators of one family, which bind values of type `Binding`. -/
class Operator (Op : Type) (Binding : outParam Type) where
  family : Family
  /-- The operator that parameters describe, under a name of this family. -/
  resolve : Params → Except Error Op
  name : Op → String
  /-- The attribute that the operator reads. -/
  field? : Op → Option String
  /-- That a schema declares the attribute, with a kind that the operator can read. -/
  checkSchema : Op → Schema → Except Error Unit
  evaluate : Op → Binding → Except Error Outcome
  /-- The operator with its parameters, in words. -/
  display : Op → String

namespace Operator

/-- The operator that parameters describe.  An operator of the other family is an error of its
own. -/
def ofParams (Op : Type) {Binding : Type} [Operator Op Binding] (params : Params) :
    Except Error Op :=
  match Family.ofOperator? params.operator with
  | none => .error (Cause.unknownOperator params.operator)
  | some found =>
    if found = family Op then resolve params
    else .error (Cause.malformedCondition
      ("`" ++ params.operator ++ "` is a " ++ found.name ++ " operator and cannot appear in a "
        ++ (family Op).name ++ " condition"))

/-! ## Reading attributes -/

/-- The error for an attribute of the wrong type. -/
def typeMismatch (item : Item) (field : String) (expected actual : ValueType) : Error :=
  (Cause.typeMismatch field expected actual : Error).withItem item.id.text

/-- The number of an attribute, if the item carries it. -/
def number? (item : Item) (field : String) : Except Error (Option Float) :=
  match item.attribute? field with
  | none => .ok none
  | some v =>
    match v.number? with
    | some x => .ok (some x)
    | none => .error (typeMismatch item field .float v.type)

/-- The elements of an attribute, if the item carries it. -/
def list? (item : Item) (field : String) : Except Error (Option (List Value)) :=
  match item.attribute? field with
  | none => .ok none
  | some (.list items) => .ok (some items)
  | some v => .error (typeMismatch item field .list v.type)

/-- The coverage of an attribute; an item without the attribute covers nothing. -/
def coverage (item : Item) (field : String) : Except Error Coverage :=
  match item.attribute? field with
  | none => .ok []
  | some v =>
    (Coverage.parse v).mapError fun violation =>
      match violation with
      | .wrongType expected actual => typeMismatch item field expected actual
      | violation => (Cause.schemaViolation field violation : Error).withItem item.id.text

/-- Whether an attribute is a wanted value, or a list that holds it. -/
def holdsValue (v wanted : Value) : Bool :=
  v.sameAs wanted ||
    match v with
    | .list items => items.any (·.sameAs wanted)
    | _ => false

/-- Whether an item carries a wanted value. -/
def carries (item : Item) (field : String) (wanted : Value) : Bool :=
  match item.attribute? field with
  | some v => holdsValue v wanted
  | none => false

/-! ## Checking schemas -/

/-- The dimension that an operator reads. -/
def dimension (operator field : String) (schema : Schema) : Except Error Dimension :=
  match schema.dimension? field with
  | some d => .ok d
  | none => .error ((Cause.unknownField field : Error).withOperator operator)

/-- The error for a dimension that an operator cannot read. -/
def incompatible (operator field message : String) : Error :=
  Cause.incompatibleField operator field message

/-- That a dimension is of a kind that an operator needs. -/
def needs (operator : String) (kind : String) (fits : DimensionKind → Bool) (d : Dimension) :
    Except Error Unit :=
  if fits d.kind then .ok ()
  else .error (incompatible operator d.name
    ("needs a " ++ kind ++ " dimension, `" ++ d.name ++ "` is " ++ d.kind.tag.name))

/-- That an item could hold a wanted value.  Lists and coverages are not looked into. -/
def checkReachable (operator : String) (d : Dimension) (wanted : Value) : Except Error Unit :=
  match d.kind with
  | .list _ | .coverageLayers _ => .ok ()
  | _ =>
    (d.check wanted).mapError fun violation =>
      incompatible operator d.name
        ("value " ++ wanted.display ++ " can never match: " ++ violation.message)

end Operator

end Ensemble
