import Ensemble.Schema.Basic

/-!
# Schema documents

A schema document names the schema, its version, its dimensions and its policy for undeclared
attributes.  Fields that are not known are refused, here and in every dimension.
-/

namespace Ensemble

/-- A schema as written in a document. -/
structure SchemaForm where
  name : String
  version : String
  dimensions : List Dimension
  undeclared : UndeclaredPolicy

namespace SchemaForm

namespace Field

/-- The name. -/
def name : Field String := .required "name" Document.toText

/-- The version. -/
def version : Field String := .defaulted "version" "" Document.toText

/-- The dimensions. -/
def dimensions : Field (List Dimension) :=
  .required "dimensions" (Document.toList Dimension.ofDocument)

/-- The policy for undeclared attributes. -/
def undeclared : Field UndeclaredPolicy :=
  .defaulted "unknown_attributes" .reject (Document.toVariant UndeclaredPolicy.ofName?)

end Field

/-- What a document says about a schema. -/
def ofDocument (d : Document) : Except Fault SchemaForm := do
  let fields ← Record.read .refused
    [Field.name.check, Field.version.check, Field.dimensions.check, Field.undeclared.check] d
  return {
    name := ← Field.name.of fields
    version := ← Field.version.of fields
    dimensions := ← Field.dimensions.of fields
    undeclared := ← Field.undeclared.of fields }

end SchemaForm

namespace Schema

/-- The schema that a form describes. -/
def ofForm (form : SchemaForm) : Except Error Schema := do
  let schema ← ofDimensions form.name form.version form.dimensions
  return schema.withUndeclared form.undeclared

/-- The schema that a document describes. -/
def ofDocument (d : Document) : Except Error Schema :=
  match SchemaForm.ofDocument d with
  | .ok form => ofForm form
  | .error fault =>
    .error (Cause.malformedSchema ("invalid schema document: " ++ fault.message))

/-- The document of a schema. -/
def toDocument (schema : Schema) : Document :=
  Document.ofFields
    [("name", .text schema.name), ("version", .text schema.version),
     ("dimensions", .array (schema.dimensions.map Dimension.toDocument)),
     ("unknown_attributes", .text schema.undeclared.name)]

end Schema

end Ensemble
