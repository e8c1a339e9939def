import Ensemble.Value.Text

/-!
# Schema violations

What can be wrong with an attribute of an item under its schema.
-/

namespace Ensemble

/-- A check of a schema that an attribute fails. -/
inductive Violation where
  /-- A required value is not there. -/
  | missing
  | wrongType (expected actual : ValueType)
  | belowMinimum (value min : Float)
  | aboveMaximum (value max : Float)
  /-- A text is not one of the allowed ones. -/
  | notAllowed (value : String) (allowed : List String)
  /-- An element of a list has the wrong type. -/
  | listItem (index : Nat) (expected actual : ValueType)
  /-- An entry of a coverage value is malformed. -/
  | coverageShape (index : Nat) (message : String)
  /-- A covered part is outside an enforced vocabulary. -/
  | unknownPart (part : String)
  /-- The schema does not declare the attribute. -/
  | undeclaredAttribute
  deriving DecidableEq

namespace Violation

/-- The name of a violation. -/
def name : Violation → String
  | .missing => "Missing"
  | .wrongType .. => "WrongType"
  | .belowMinimum .. => "BelowMinimum"
  | .aboveMaximum .. => "AboveMaximum"
  | .notAllowed .. => "NotAllowed"
  | .listItem .. => "ListItem"
  | .coverageShape .. => "CoverageShape"
  | .unknownPart _ => "UnknownPart"
  | .undeclaredAttribute => "UndeclaredAttribute"

/-- That a value has another type than the expected one. -/
def typeClash (expected actual : ValueType) : String :=
  "expected " ++ expected.name ++ ", got " ++ actual.name

/-- The message for a violation. -/
def message : Violation → String
  | .missing => "required value is missing"
  | .wrongType expected actual => typeClash expected actual
  | .belowMinimum value min => displayFloat value ++ " is below minimum " ++ displayFloat min
  | .aboveMaximum value max => displayFloat value ++ " is above maximum " ++ displayFloat max
  | .notAllowed value allowed =>
    Text.quote value ++ " is not one of [" ++ ", ".intercalate allowed ++ "]"
  | .listItem index expected actual =>
    "list item " ++ toString index ++ ": " ++ typeClash expected actual
  | .coverageShape index message => "coverage entry " ++ toString index ++ ": " ++ message
  | .unknownPart part => "unknown coverage part " ++ Text.quote part
  | .undeclaredAttribute => "attribute is not declared by the schema"

end Violation

end Ensemble
