import Ensemble.Schema.Dimension
import Ensemble.Value.Document

/-!
# Dimensions in documents

A document may set any constraint beside the type of a dimension.  `DimensionForm` holds what it
says; `Dimension.ofForm` accepts the constraints that fit the type, and `Dimension.toForm` states
the constraints of a dimension.
-/

namespace Ensemble

/-- A numeric bound as written: whole or real. -/
inductive NumericBound where
  | int (n : Int64)
  | float (x : Float)

namespace NumericBound

/-- The bound as a float. -/
def toFloat : NumericBound → Float
  | .int n => Float.ofInt n.toInt
  | .float x => x

/-- The document of a bound. -/
def toDocument : NumericBound → Document
  | .int n => .whole n.toInt
  | .float x => Document.ofFloat x

/-- The bound that a document holds. -/
def ofDocument (d : Document) : Except Fault NumericBound :=
  match Value.firstFit? d with
  | some (.int n) => .ok (.int n)
  | some (.float x) => .ok (.float x)
  | _ => .error .invalid

end NumericBound

/-- A dimension as written in a document. -/
structure DimensionForm where
  name : String
  tag : KindTag
  required : Bool := false
  min : Option NumericBound := none
  max : Option NumericBound := none
  allowed : Option (List String) := none
  item : Option ScalarKind := none
  vocabulary : Option Vocabulary := none

namespace DimensionForm

/-! ## Documents -/

namespace Field

/-- The name of the attribute. -/
def name : Field String := .required "name" Document.toText

/-- The type. -/
def tag : Field KindTag := .required "type" (Document.toVariant KindTag.ofName?)

/-- Whether every item must carry the attribute. -/
def required : Field Bool := .defaulted "required" false Document.toBool

/-- The least number. -/
def min : Field (Option NumericBound) := .optional "min" NumericBound.ofDocument

/-- The greatest number. -/
def max : Field (Option NumericBound) := .optional "max" NumericBound.ofDocument

/-- The allowed texts. -/
def allowed : Field (Option (List String)) := .optional "allowed" (Document.toList Document.toText)

/-- The kind of the elements. -/
def item : Field (Option ScalarKind) := .optional "item" (Document.toVariant ScalarKind.ofName?)

/-- The part vocabulary. -/
def vocabulary : Field (Option Vocabulary) := .optional "vocabulary" Vocabulary.ofDocument

end Field

/-- What a document says about a dimension. -/
def ofDocument (d : Document) : Except Fault DimensionForm := do
  let fields ← Record.read .refused
    [Field.name.check, Field.tag.check, Field.required.check, Field.min.check, Field.max.check,
     Field.allowed.check, Field.item.check, Field.vocabulary.check] d
  return {
    name := ← Field.name.of fields
    tag := ← Field.tag.of fields
    required := ← Field.required.of fields
    min := ← Field.min.of fields
    max := ← Field.max.of fields
    allowed := ← Field.allowed.of fields
    item := ← Field.item.of fields
    vocabulary := ← Field.vocabulary.of fields }

/-- The document of a form.  Constraints that are not set are left out. -/
def toDocument (form : DimensionForm) : Document :=
  let set (name : String) (d : Option Document) : List (String × Document) :=
    d.toList.map (name, ·)
  Document.ofFields <|
    [("name", .text form.name), ("type", .text form.tag.name), ("required", .bool form.required)]
      ++ set "min" (form.min.map NumericBound.toDocument)
      ++ set "max" (form.max.map NumericBound.toDocument)
      ++ set "allowed" (form.allowed.map Document.ofTexts)
      ++ set "item" (form.item.map fun item => .text item.name)
      ++ set "vocabulary" (form.vocabulary.map Vocabulary.toDocument)

/-! ## Constraints -/

/-- The constraints that are set. -/
def constraints (form : DimensionForm) : List String :=
  [("min", form.min.isSome), ("max", form.max.isSome), ("allowed", form.allowed.isSome),
   ("item", form.item.isSome), ("vocabulary", form.vocabulary.isSome)].filterMap
    fun (name, isSet) => if isSet then some name else none

/-- The error for a form that is not a dimension. -/
def malformed (form : DimensionForm) (message : String) : Error :=
  Cause.malformedSchema ("dimension " ++ form.name ++ ": " ++ message)

/-- A bound of an integer dimension. -/
def integerBound (form : DimensionForm) (name : String) :
    Option NumericBound → Except Error (Option Int64)
  | none => .ok none
  | some (.int n) => .ok (some n)
  | some (.float x) =>
    .error (form.malformed
      ("`" ++ name ++ "` of an integer dimension must be whole, got " ++ displayFloat x))

end DimensionForm

namespace KindTag

/-- The constraints that may be set for a type. -/
def constraints : KindTag → List String
  | .string | .boolean => []
  | .integer | .float => ["min", "max"]
  | .choice => ["allowed"]
  | .list => ["item"]
  | .coverageLayers => ["vocabulary"]

end KindTag

namespace Dimension

/-- The kind that a form with fitting constraints describes. -/
def kindOfForm (form : DimensionForm) : Except Error DimensionKind :=
  match form.tag with
  | .string => .ok .string
  | .boolean => .ok .boolean
  | .integer => do
    return .integer (← form.integerBound "min" form.min) (← form.integerBound "max" form.max)
  | .float => .ok (.float (form.min.map NumericBound.toFloat) (form.max.map NumericBound.toFloat))
  | .choice =>
    match form.allowed with
    | some allowed => .ok (.choice allowed)
    | none => .error (form.malformed "type enum needs `allowed`")
  | .list =>
    match form.item with
    | some item => .ok (.list item)
    | none => .error (form.malformed "type list needs `item`")
  | .coverageLayers => .ok (.coverageLayers form.vocabulary)

/-- The dimension that a form describes: all constraints that are set must apply to the type, and
those that the type needs must be set. -/
def ofForm (form : DimensionForm) : Except Error Dimension :=
  match form.constraints.find? fun name => name ∉ form.tag.constraints with
  | some name =>
    .error (form.malformed ("`" ++ name ++ "` does not apply to type " ++ form.tag.name))
  | none => do return ⟨form.name, ← kindOfForm form, form.required⟩

/-- The form of a dimension. -/
def toForm (dimension : Dimension) : DimensionForm :=
  let form : DimensionForm :=
    { name := dimension.name, tag := dimension.kind.tag, required := dimension.required }
  match dimension.kind with
  | .string | .boolean => form
  | .integer min max => { form with min := min.map .int, max := max.map .int }
  | .float min max => { form with min := min.map .float, max := max.map .float }
  | .choice allowed => { form with allowed := some allowed }
  | .list item => { form with item := some item }
  | .coverageLayers vocabulary => { form with vocabulary }

/-- The document of a dimension. -/
def toDocument (dimension : Dimension) : Document := dimension.toForm.toDocument

/-- The dimension that a document describes.  One that its type refuses is a fault of the
document. -/
def ofDocument (d : Document) : Except Fault Dimension := do
  (ofForm (← DimensionForm.ofDocument d)).mapError fun e => .refused e.message

end Dimension

end Ensemble
