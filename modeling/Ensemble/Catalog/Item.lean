import Ensemble.Document.Record
import Ensemble.Value.Document

/-!
# Items

An item has an id, a name, attributes that a schema checks and rules read, and metadata that nothing
looks at.
-/

namespace Ensemble

/-- The id of an item, unique within its catalog.  Ids are ordered by their text. -/
@[ext]
structure ItemId where
  text : String
  deriving DecidableEq, Repr, Inhabited

namespace ItemId

/-- The id under inspection. -/
def describe (id : ItemId) : String := "ItemId(" ++ id.text ++ ")"

/-- Ids in ascending order. -/
def sorted (ids : List ItemId) : List ItemId := ids.mergeSort fun a b => a.text ≤ b.text

/-- The document of an id. -/
def toDocument (id : ItemId) : Document := .text id.text

/-- The id that a document holds. -/
def ofDocument (d : Document) : Except Fault ItemId := (Document.toText d).map ItemId.mk

end ItemId

/-- The attributes of an item: values under the names of dimensions. -/
abbrev Attributes := Dictionary Value

/-- An item of a catalog. -/
structure Item where
  id : ItemId
  name : String
  attributes : Attributes := .empty
  /-- Never checked and never read by rules. -/
  metadata : Dictionary Value := .empty
  deriving DecidableEq

namespace Item

/-- A copy with an attribute set. -/
def withAttribute (item : Item) (key : String) (v : Value) : Item :=
  { item with attributes := item.attributes.insert key v }

/-- A copy with an entry of the metadata set. -/
def withMetadata (item : Item) (key : String) (v : Value) : Item :=
  { item with metadata := item.metadata.insert key v }

/-- The value of an attribute; nil counts as absent. -/
def attribute? (item : Item) (key : String) : Option Value :=
  (item.attributes.get? key).filter fun v => !v.isNil

/-! ## Documents -/

/-- The document of a dictionary of values. -/
def valuesDocument (values : Dictionary Value) : Document := .object (Value.toFields values.entries)

/-- The dictionary of values that a document holds. -/
def toValues : Document → Except Fault (Dictionary Value)
  | .object fields => .ok (Dictionary.ofList (Value.ofFields fields))
  | _ => .error .invalid

/-- The document of an item. -/
def toDocument (item : Item) : Document :=
  Document.ofFields
    [("id", item.id.toDocument), ("name", .text item.name),
     ("attributes", valuesDocument item.attributes), ("metadata", valuesDocument item.metadata)]

namespace Field

/-- The id. -/
def id : Field ItemId := .required "id" ItemId.ofDocument

/-- The name. -/
def name : Field String := .required "name" Document.toText

/-- The attributes. -/
def attributes : Field Attributes := .defaulted "attributes" .empty toValues

/-- The metadata. -/
def metadata : Field (Dictionary Value) := .defaulted "metadata" .empty toValues

end Field

/-- The item that a document holds. -/
def ofDocument (d : Document) : Except Fault Item := do
  let fields ← Record.read .ignored
    [Field.id.check, Field.name.check, Field.attributes.check, Field.metadata.check] d
  return {
    id := ← Field.id.of fields
    name := ← Field.name.of fields
    attributes := ← Field.attributes.of fields
    metadata := ← Field.metadata.of fields }

end Item

end Ensemble
