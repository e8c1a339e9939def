import Ensemble.Catalog.Item
import Ensemble.Schema.DimensionForm

/-!
# Schemas

A schema is an ordered list of dimensions with distinct names.  Attributes are checked dimension by
dimension in the order of declaration, and undeclared attributes after them in key order, so the
first violation is always the same one.
-/

namespace Ensemble

/-- What happens to attributes that a schema does not declare. -/
inductive UndeclaredPolicy where
  /-- They are violations. -/
  | reject
  /-- They are carried along unchecked. -/
  | allow
  deriving DecidableEq, Repr

namespace UndeclaredPolicy

/-- The name used in documents. -/
def name : UndeclaredPolicy → String
  | .reject => "reject"
  | .allow => "allow"

/-- The policy with a name. -/
def ofName? : String → Option UndeclaredPolicy
  | "reject" => some .reject
  | "allow" => some .allow
  | _ => none

end UndeclaredPolicy

/-- A coverage part outside an advisory vocabulary. -/
structure Advisory where
  dimension : String
  part : String
  deriving DecidableEq, Repr

/-- The dimensions of the items of a catalog. -/
structure Schema where
  name : String
  version : String
  /-- In the order of declaration. -/
  dimensions : List Dimension
  undeclared : UndeclaredPolicy
  /-- No two dimensions share a name. -/
  distinct : (dimensions.map (·.name)).Nodup

namespace Schema

/-- Two schemas agree when their parts do; bounds agree when they are equal as numbers. -/
instance : BEq Schema where
  beq a b := a.name == b.name && a.version == b.version && a.dimensions == b.dimensions
    && a.undeclared == b.undeclared

/-! ## Building -/

/-- The schema without dimensions. -/
def empty (name version : String) : Schema := ⟨name, version, [], .reject, List.nodup_nil⟩

instance : Inhabited Schema := ⟨empty "" ""⟩

/-- The dimension with a name. -/
def dimension? (schema : Schema) (name : String) : Option Dimension :=
  schema.dimensions.find? fun d => d.name == name

/-- Whether a dimension has a name. -/
def declares (schema : Schema) (name : String) : Bool := (schema.dimension? name).isSome

theorem declares_iff {schema : Schema} {name : String} :
    schema.declares name = true ↔ name ∈ schema.dimensions.map (·.name) := by
  simp [declares, dimension?, List.find?_isSome]

/-- A copy with one more dimension, unless its name is taken. -/
def add (schema : Schema) (dimension : Dimension) : Except Error Schema :=
  if h : schema.declares dimension.name = true then
    .error (Cause.duplicateDimension dimension.name)
  else
    .ok { schema with
      dimensions := schema.dimensions ++ [dimension]
      distinct := by
        rw [declares_iff] at h
        simp only [List.map_append, List.map_cons, List.map_nil]
        refine List.nodup_append.2 ⟨schema.distinct, by simp, fun a ha b hb => ?_⟩
        obtain rfl := List.mem_singleton.1 hb
        exact fun e => h (e ▸ ha) }

/-- The schema with the given dimensions. -/
def ofDimensions (name version : String) (dimensions : List Dimension) : Except Error Schema :=
  dimensions.foldlM add (empty name version)

/-- A copy with another policy for undeclared attributes. -/
def withUndeclared (schema : Schema) (policy : UndeclaredPolicy) : Schema :=
  { schema with undeclared := policy }

/-! ## Checking -/

/-- The error for a violation of an attribute. -/
def violationError (name : String) (violation : Violation) : Error :=
  Cause.schemaViolation name violation

/-- The violation of one dimension.  Nil counts as absent. -/
def dimensionViolation? (attributes : Attributes) (d : Dimension) : Option Error :=
  match (attributes.get? d.name).filter fun v => !v.isNil with
  | none => if d.required then some (violationError d.name .missing) else none
  | some v =>
    match d.check v with
    | .ok () => none
    | .error violation => some (violationError d.name violation)

/-- The violations of attributes that are not declared. -/
def undeclaredViolations (schema : Schema) (attributes : Attributes) : List Error :=
  match schema.undeclared with
  | .reject =>
    (attributes.keys.filter fun key => !schema.declares key).map
      (violationError · .undeclaredAttribute)
  | .allow => []

/-- All violations: those of the dimensions in the order of declaration, then the undeclared
attributes in key order. -/
def violations (schema : Schema) (attributes : Attributes) : List Error :=
  schema.dimensions.filterMap (dimensionViolation? attributes)
    ++ schema.undeclaredViolations attributes

/-- Checks attributes, up to the first violation. -/
def validateAttributes (schema : Schema) (attributes : Attributes) : Except Error Unit :=
  match schema.violations attributes with
  | [] => .ok ()
  | e :: _ => .error e

/-- Checks an item.  The error names it. -/
def validate (schema : Schema) (item : Item) : Except Error Unit :=
  (schema.validateAttributes item.attributes).mapError (·.withItem item.id.text)

/-- The coverage parts outside advisory vocabularies. -/
def advisories (schema : Schema) (attributes : Attributes) : List Advisory :=
  schema.dimensions.flatMap fun d =>
    match attributes.get? d.name with
    | none => []
    | some v => (d.advisoryMisses v).map fun part => ⟨d.name, part⟩

end Schema

end Ensemble
