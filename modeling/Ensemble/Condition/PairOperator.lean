import Ensemble.Condition.Layering
import Ensemble.Condition.Operator

/-!
# Operators over two items

No operator here depends on the order of the two items, apart from its reason.  An attribute that is
missing on either item is a failure; only `has_value` asks for one carrier, and for
`layer_compatible` an item without coverage has nothing to conflict with.
-/

namespace Ensemble

/-- Two items that a condition is about. -/
structure Pair where
  first : Item
  second : Item

namespace Pair

/-- Both items. -/
def items (pair : Pair) : List Item := [pair.first, pair.second]

/-- The failure that names the items without an attribute. -/
def missing (pair : Pair) (field : String) : Outcome :=
  let lacking := pair.items.filter fun item => (item.attribute? field).isNone
  .fail (field ++ ": missing on " ++ ", ".intercalate (lacking.map (·.id.text)))

end Pair

/-- An operator over two items with its parameters. -/
inductive PairOperator where
  /-- Both items carry the same value. -/
  | equals (field : String)
  /-- The items carry different values. -/
  | hasDifferent (field : String)
  /-- The distance of two numbers compares with a value. -/
  | absDiff (field : String) (comparison : Comparison) (value : Float)
  /-- One item at least carries the value. -/
  | hasValue (field : String) (value : Value)
  /-- Two lists share an element. -/
  | sameListItem (field : String)
  /-- The distance of two numbers is at most the threshold. -/
  | formalityCompatible (field : String) (threshold : Float)
  /-- The layers of two coverages do not conflict. -/
  | layerCompatible (field : String)
  deriving BEq

namespace PairOperator

/-- The name of an operator. -/
def name : PairOperator → String
  | .equals _ => "equals"
  | .hasDifferent _ => "has_different"
  | .absDiff .. => "abs_diff"
  | .hasValue .. => "has_value"
  | .sameListItem _ => "same_list_item"
  | .formalityCompatible .. => "formality_compatible"
  | .layerCompatible _ => "layer_compatible"

/-- The attribute that an operator reads. -/
def field : PairOperator → String
  | .equals field | .hasDifferent field | .absDiff field .. | .hasValue field _
  | .sameListItem field | .formalityCompatible field _ | .layerCompatible field => field

/-- The operator with its parameters, in words. -/
def display (op : PairOperator) : String :=
  op.name ++ "(" ++ (match op with
    | .absDiff field comparison value =>
      field ++ " " ++ comparison.symbol ++ " " ++ displayFloat value
    | .hasValue field value => field ++ " = " ++ value.display
    | .formalityCompatible field threshold => field ++ ", threshold " ++ displayFloat threshold
    | op => op.field) ++ ")"

/-! ## Resolving -/

/-- The threshold of `formality_compatible`: one, unless it is given. -/
def threshold (params : Params) : Except Error Float := do
  let x ← params.numberOr "threshold" 1
  if x < 0 then throw (params.invalid "threshold" ("must be >= 0, got " ++ displayFloat x))
  return x

/-- The operator that parameters describe. -/
def resolve (params : Params) : Except Error PairOperator := do
  match params.operator with
  | "equals" =>
    params.expectOnly ["field"]
    return .equals (← params.field)
  | "has_different" =>
    params.expectOnly ["field"]
    return .hasDifferent (← params.field)
  | "abs_diff" =>
    params.expectOnly ["field", "operator", "value"]
    return .absDiff (← params.field) (← params.comparison "operator") (← params.number "value")
  | "has_value" =>
    params.expectOnly ["field", "value"]
    return .hasValue (← params.field) (← params.value "value")
  | "same_list_item" =>
    params.expectOnly ["field"]
    return .sameListItem (← params.field)
  | "formality_compatible" =>
    params.expectOnly ["field", "threshold"]
    let threshold ← threshold params
    return .formalityCompatible (← params.field) threshold
  | "layer_compatible" =>
    params.expectOnly ["field"]
    return .layerCompatible (← params.field)
  | name => throw (Cause.unknownOperator name : Error)

/-! ## Checking schemas -/

/-- Whether a kind is a list. -/
def isList : DimensionKind → Bool
  | .list _ => true
  | _ => false

/-- Whether a kind is a coverage. -/
def isCoverage : DimensionKind → Bool
  | .coverageLayers _ => true
  | _ => false

/-- That a schema declares the attribute, with a kind that the operator can read. -/
def checkSchema (op : PairOperator) (schema : Schema) : Except Error Unit := do
  let d ← Operator.dimension op.name op.field schema
  match op with
  | .absDiff .. | .formalityCompatible .. =>
    Operator.needs op.name "numeric" DimensionKind.isNumeric d
  | .sameListItem _ => Operator.needs op.name "list" isList d
  | .layerCompatible _ => Operator.needs op.name "coverage_layers" isCoverage d
  | .hasValue _ value => Operator.checkReachable op.name d value
  | .equals _ | .hasDifferent _ => return ()

/-! ## Evaluating -/

/-- Compares the values of both items; `same` says whether equal ones pass. -/
def compareValues (field : String) (same : Bool) (pair : Pair) : Outcome :=
  match pair.first.attribute? field, pair.second.attribute? field with
  | some x, some y =>
    if x.sameAs y then ⟨same, field ++ ": both " ++ x.display⟩
    else ⟨!same, field ++ ": " ++ x.display ++ " vs " ++ y.display⟩
  | _, _ => pair.missing field

/-- Judges the numbers of both items. -/
def compareNumbers (field : String) (judge : Float → Float → Outcome) (pair : Pair) :
    Except Error Outcome := do
  let x? ← Operator.number? pair.first field
  let y? ← Operator.number? pair.second field
  match x?, y? with
  | some x, some y => return judge x y
  | _, _ => return pair.missing field

/-- The elements of the first list that are in the second, each once. -/
def sharedItems (xs ys : List Value) : List Value :=
  (xs.filter fun v => ys.any (·.sameAs v)).eraseDupsBy fun v earlier => earlier.sameAs v

/-- Evaluates an operator. -/
def evaluate (op : PairOperator) (pair : Pair) : Except Error Outcome := do
  match op with
  | .equals field => return compareValues field true pair
  | .hasDifferent field => return compareValues field false pair
  | .absDiff field comparison value =>
    compareNumbers field
      (fun x y =>
        let difference := (x - y).abs
        ⟨comparison.holds difference value,
          field ++ ": difference " ++ displayFloat difference ++ ", required " ++ comparison.symbol
            ++ " " ++ displayFloat value⟩)
      pair
  | .hasValue field value =>
    match pair.items.find? fun item => Operator.carries item field value with
    | some item => return .pass (field ++ ": " ++ item.id.text ++ " has " ++ value.display)
    | none => return .fail (field ++ ": neither item has " ++ value.display)
  | .sameListItem field =>
    let xs? ← Operator.list? pair.first field
    let ys? ← Operator.list? pair.second field
    match xs?, ys? with
    | some xs, some ys =>
      match sharedItems xs ys with
      | [] => return .fail (field ++ ": no shared items")
      | shared => return .pass (field ++ ": shared " ++ ", ".intercalate (shared.map Value.display))
    | _, _ => return pair.missing field
  | .formalityCompatible field threshold =>
    compareNumbers field
      (fun x y =>
        let difference := (x - y).abs
        ⟨difference ≤ threshold,
          field ++ ": " ++ displayFloat x ++ " vs " ++ displayFloat y ++ ", difference "
            ++ displayFloat difference ++ ", threshold " ++ displayFloat threshold⟩)
      pair
  | .layerCompatible field =>
    let x ← Operator.coverage pair.first field
    let y ← Operator.coverage pair.second field
    let verdict := LayerVerdict.ofLayers x.flatten y.flatten
    return ⟨verdict.isCompatible, field ++ ": " ++ verdict.reason⟩

instance : Operator PairOperator Pair where
  family := .pairwise
  resolve := resolve
  name := name
  field? op := some op.field
  checkSchema := checkSchema
  evaluate := evaluate
  display := display

end PairOperator

end Ensemble
