import Ensemble.Error.Basic
import Ensemble.Schema.Vocabulary

/-!
# Dimensions

A dimension is a named, typed slot for an attribute.  Its kind carries the constraints of its type,
which `Dimension.check` enforces; values are never converted.
-/

namespace Ensemble

/-! ## Kinds -/

/-- The kind of the elements of a list dimension. -/
inductive ScalarKind where
  | string
  | integer
  /-- Integers are accepted as well. -/
  | float
  | boolean
  deriving DecidableEq, Repr

namespace ScalarKind

/-- The type that elements must have. -/
def valueType : ScalarKind → ValueType
  | .string => .string
  | .integer => .int
  | .float => .float
  | .boolean => .bool

/-- The name used in documents. -/
def name : ScalarKind → String
  | .string => "string"
  | .integer => "integer"
  | .float => "float"
  | .boolean => "boolean"

/-- The kind with a name. -/
def ofName? : String → Option ScalarKind
  | "string" => some .string
  | "integer" => some .integer
  | "float" => some .float
  | "boolean" => some .boolean
  | _ => none

end ScalarKind

/-- The type of a dimension without its constraints. -/
inductive KindTag where
  | string
  | integer
  | float
  | boolean
  | choice
  | list
  | coverageLayers
  deriving DecidableEq, Repr

namespace KindTag

/-- The name used in documents and messages. -/
def name : KindTag → String
  | .string => "string"
  | .integer => "integer"
  | .float => "float"
  | .boolean => "boolean"
  | .choice => "enum"
  | .list => "list"
  | .coverageLayers => "coverage_layers"

/-- The tag with a name. -/
def ofName? : String → Option KindTag
  | "string" => some .string
  | "integer" => some .integer
  | "float" => some .float
  | "boolean" => some .boolean
  | "enum" => some .choice
  | "list" => some .list
  | "coverage_layers" => some .coverageLayers
  | _ => none

end KindTag

/-- The type of a dimension with its constraints.  Bounds are inclusive. -/
inductive DimensionKind where
  | string
  | integer (min max : Option Int64)
  /-- Integers are accepted as well. -/
  | float (min max : Option Float)
  | boolean
  /-- One of a fixed set of texts. -/
  | choice (allowed : List String)
  /-- A list of scalars of one kind. -/
  | list (item : ScalarKind)
  /-- A coverage value. -/
  | coverageLayers (vocabulary : Option Vocabulary)
  deriving BEq

namespace DimensionKind

/-- The type of a kind. -/
def tag : DimensionKind → KindTag
  | .string => .string
  | .integer .. => .integer
  | .float .. => .float
  | .boolean => .boolean
  | .choice _ => .choice
  | .list _ => .list
  | .coverageLayers _ => .coverageLayers

/-- Whether values are numbers. -/
def isNumeric : DimensionKind → Bool
  | .integer .. | .float .. => true
  | _ => false

end DimensionKind

/-! ## Checks -/

/-- A named slot for an attribute. -/
structure Dimension where
  name : String
  kind : DimensionKind
  /-- Whether every item must carry the attribute. -/
  required : Bool
  deriving BEq

namespace Dimension

/-- That a value has a type that may stand for the expected one. -/
def checkType (expected : ValueType) (v : Value) : Except Violation Unit :=
  if expected.accepts v.type then .ok () else .error (.wrongType expected v.type)

/-- That a number lies within the bounds that are set. -/
def checkRange (x : Float) (min max : Option Float) : Except Violation Unit := do
  if let some min := min then
    if x < min then throw (.belowMinimum x min)
  if let some max := max then
    if x > max then throw (.aboveMaximum x max)

/-- That the elements from a position on have a type that may stand for the expected one. -/
def checkItems (expected : ValueType) (index : Nat) : List Value → Except Violation Unit
  | [] => .ok ()
  | v :: rest =>
    if expected.accepts v.type then checkItems expected (index + 1) rest
    else .error (.listItem index expected v.type)

/-- That a coverage names no part outside an enforced vocabulary. -/
def checkParts (vocabulary : Option Vocabulary) (coverage : Coverage) : Except Violation Unit :=
  match vocabulary with
  | none => .ok ()
  | some vocabulary =>
    if vocabulary.isEnforced then
      match vocabulary.unknownParts coverage with
      | [] => .ok ()
      | part :: _ => .error (.unknownPart part)
    else .ok ()

/-- Checks a value that is present, up to the first violation. -/
def check (dimension : Dimension) (v : Value) : Except Violation Unit :=
  match dimension.kind with
  | .string => checkType .string v
  | .boolean => checkType .bool v
  | .integer min max =>
    match v with
    | .int n =>
      let toFloat (n : Int64) : Float := Float.ofInt n.toInt
      checkRange (toFloat n) (min.map toFloat) (max.map toFloat)
    | v => .error (.wrongType .int v.type)
  | .float min max =>
    match v.number? with
    | some x => checkRange x min max
    | none => .error (.wrongType .float v.type)
  | .choice allowed =>
    match v with
    | .string s => if s ∈ allowed then .ok () else .error (.notAllowed s allowed)
    | v => .error (.wrongType .string v.type)
  | .list item =>
    match v with
    | .list items => checkItems item.valueType 0 items
    | v => .error (.wrongType .list v.type)
  | .coverageLayers vocabulary => do checkParts vocabulary (← Coverage.parse v)

/-- The parts of a value outside an advisory vocabulary.  There are none when the value fails its
check. -/
def advisoryMisses (dimension : Dimension) (v : Value) : List String :=
  match dimension.kind with
  | .coverageLayers (some vocabulary) =>
    if vocabulary.isEnforced then []
    else match Coverage.parse v with
      | .ok coverage => vocabulary.unknownParts coverage
      | .error _ => []
  | _ => []

end Dimension

end Ensemble
