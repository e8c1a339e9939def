import Ensemble.Condition.Operator
import Ensemble.Value.Extremes

/-!
# Operators over a set of items

Operators that read an attribute skip the members without it, and refuse the empty set, which has
nothing to aggregate.
-/

namespace Ensemble

/-- An operator over a set of items with its parameters. -/
inductive SetOperator where
  /-- The set has at least so many members. -/
  | minClusterSize (value : Nat)
  /-- The set has at most so many members. -/
  | maxClusterSize (value : Nat)
  /-- No two members carry the same value. -/
  | uniqueValues (field : String)
  /-- Some member carries the value. -/
  | hasItemWith (field : String) (value : Value)
  /-- The number of distinct values compares with a value. -/
  | countByField (field : String) (comparison : Comparison) (value : Float)
  /-- The greatest and the least number are at most so far apart. -/
  | formalityRange (field : String) (maxRange : Float)
  deriving BEq

namespace SetOperator

/-- The name of an operator. -/
def name : SetOperator → String
  | .minClusterSize _ => "min_cluster_size"
  | .maxClusterSize _ => "max_cluster_size"
  | .uniqueValues _ => "unique_values"
  | .hasItemWith .. => "has_item_with"
  | .countByField .. => "count_by_field"
  | .formalityRange .. => "formality_range"

/-- The attribute that an operator reads. -/
def field? : SetOperator → Option String
  | .minClusterSize _ | .maxClusterSize _ => none
  | .uniqueValues field | .hasItemWith field _ | .countByField field .. | .formalityRange field _ =>
    some field

/-- The operator with its parameters, in words. -/
def display (op : SetOperator) : String :=
  op.name ++ "(" ++ (match op with
    | .minClusterSize value | .maxClusterSize value => toString value
    | .uniqueValues field => field
    | .hasItemWith field value => field ++ " = " ++ value.display
    | .countByField field comparison value =>
      field ++ " " ++ comparison.symbol ++ " " ++ displayFloat value
    | .formalityRange field maxRange => field ++ ", " ++ displayFloat maxRange) ++ ")"

/-! ## Resolving -/

/-- The operator that parameters describe. -/
def resolve (params : Params) : Except Error SetOperator := do
  match params.operator with
  | "min_cluster_size" =>
    params.expectOnly ["value"]
    return .minClusterSize (← params.count "value")
  | "max_cluster_size" =>
    params.expectOnly ["value"]
    return .maxClusterSize (← params.count "value")
  | "unique_values" =>
    params.expectOnly ["field"]
    return .uniqueValues (← params.field)
  | "has_item_with" =>
    params.expectOnly ["field", "value"]
    return .hasItemWith (← params.field) (← params.value "value")
  | "count_by_field" =>
    params.expectOnly ["field", "operator", "value"]
    return .countByField (← params.field) (← params.comparison "operator")
      (← params.nonNegative "value")
  | "formality_range" =>
    params.expectOnly ["field", "max_range"]
    return .formalityRange (← params.field) (← params.nonNegative "max_range")
  | name => throw (Cause.unknownOperator name : Error)

/-! ## Checking schemas -/

/-- That a schema declares the attribute, with a kind that the operator can read. -/
def checkSchema (op : SetOperator) (schema : Schema) : Except Error Unit := do
  match op.field? with
  | none => return ()
  | some field =>
    let d ← Operator.dimension op.name field schema
    match op with
    | .formalityRange .. => Operator.needs op.name "numeric" DimensionKind.isNumeric d
    | .hasItemWith _ value => Operator.checkReachable op.name d value
    | _ => return ()

/-! ## Evaluating -/

/-- The members that carry an attribute, with its value. -/
def carriers (field : String) (items : List Item) : List (Value × Item) :=
  items.filterMap fun item => (item.attribute? field).map (·, item)

/-- The first value that an earlier member carries as well, with the earlier and the later one. -/
def repeat? (seen : List (Value × Item)) : List (Value × Item) → Option (Value × Item × Item)
  | [] => none
  | (v, item) :: rest =>
    match seen.find? fun earlier => earlier.1.sameAs v with
    | some (_, first) => some (v, first, item)
    | none => repeat? (seen ++ [(v, item)]) rest

/-- The values that the members carry, without repetitions. -/
def distinctValues (field : String) (items : List Item) : List Value :=
  ((carriers field items).map (·.1)).eraseDupsBy fun v earlier => earlier.sameAs v

/-- The numbers that the members carry. -/
def numbers (field : String) : List Item → Except Error (List Float)
  | [] => .ok []
  | item :: rest => do
    match ← Operator.number? item field with
    | some x => return x :: (← numbers field rest)
    | none => numbers field rest

/-- That the set is not empty. -/
def requireMembers (op : SetOperator) (items : List Item) : Except Error Unit :=
  if items.isEmpty then .error (Cause.emptyItemSet op.name) else .ok ()

/-- Evaluates an operator. -/
def evaluate (op : SetOperator) (items : List Item) : Except Error Outcome := do
  let size := items.length
  match op with
  | .minClusterSize value =>
    return ⟨value ≤ size, "size " ++ toString size ++ ", minimum " ++ toString value⟩
  | .maxClusterSize value =>
    return ⟨size ≤ value, "size " ++ toString size ++ ", maximum " ++ toString value⟩
  | .uniqueValues field =>
    op.requireMembers items
    let carriers := carriers field items
    match repeat? [] carriers with
    | some (v, first, second) =>
      return .fail (field ++ ": " ++ v.display ++ " repeated on " ++ first.id.text ++ " and "
        ++ second.id.text)
    | none => return .pass (field ++ ": " ++ toString carriers.length ++ " distinct values")
  | .hasItemWith field value =>
    op.requireMembers items
    match items.find? fun item => Operator.carries item field value with
    | some item => return .pass (field ++ ": " ++ item.id.text ++ " has " ++ value.display)
    | none => return .fail (field ++ ": no member has " ++ value.display)
  | .countByField field comparison value =>
    op.requireMembers items
    let count := Float.ofNat (distinctValues field items).length
    return ⟨comparison.holds count value,
      field ++ ": " ++ displayFloat count ++ " distinct values, required " ++ comparison.symbol
        ++ " " ++ displayFloat value⟩
  | .formalityRange field maxRange =>
    op.requireMembers items
    match ← numbers field items with
    | [] => throw ((Cause.missingField field : Error).withOperator op.name)
    | x :: rest =>
      let least := rest.foldl lesserFloat x
      let greatest := rest.foldl greaterFloat x
      let range := greatest - least
      return ⟨range ≤ maxRange,
        field ++ ": range " ++ displayFloat least ++ ".." ++ displayFloat greatest ++ " spans "
          ++ displayFloat range ++ ", maximum " ++ displayFloat maxRange⟩

instance : Operator SetOperator (List Item) where
  family := .cluster
  resolve := resolve
  name := name
  field? := field?
  checkSchema := checkSchema
  evaluate := evaluate
  display := display

end SetOperator

end Ensemble
