import Ensemble.Condition.Comparison
import Ensemble.Document.Printer
import Ensemble.Error.Basic
import Ensemble.Value.Document

/-!
# Operator parameters

The parameters of an operator are the fields of an object.  Each accessor reads one of them, and its
error names the operator and the parameter.
-/

namespace Ensemble

/-- The parameters of one use of an operator. -/
structure Params where
  operator : String
  fields : Entries Document

namespace Params

/-- The parameters that a document holds; it must be an object. -/
def ofDocument (operator : String) (d : Document) : Except Error Params :=
  match d with
  | .object fields => .ok ⟨operator, fields⟩
  | d =>
    .error (Cause.malformedCondition
      ("parameters of `" ++ operator ++ "` must be an object, got " ++ d.compact))

/-- The error for a parameter. -/
def invalid (params : Params) (key message : String) : Error :=
  Cause.invalidParameter params.operator key message

/-- The error for a parameter of the wrong shape. -/
def mismatch (params : Params) (key expected : String) (d : Document) : Error :=
  params.invalid key ("must be " ++ expected ++ ", got " ++ d.compact)

/-- A parameter that is there and not null. -/
def get? (params : Params) (key : String) : Option Document :=
  match params.fields.get? key with
  | some .null => none
  | d => d

/-- A parameter that has to be there. -/
def require (params : Params) (key : String) : Except Error Document :=
  match params.get? key with
  | some d => .ok d
  | none => .error (params.invalid key "is required")

/-- That there are no parameters but the allowed ones.  The error names the first one in key
order. -/
def expectOnly (params : Params) (allowed : List String) : Except Error Unit :=
  match params.fields.find? fun (key, _) => key ∉ allowed with
  | none => .ok ()
  | some (key, _) =>
    .error (params.invalid key
      ("is not a parameter of this operator (expected " ++ ", ".intercalate allowed ++ ")"))

/-- The name of the attribute that the operator reads: a text that is not empty. -/
def field (params : Params) : Except Error String := do
  match ← params.require "field" with
  | d@(.text s) =>
    if s = "" then throw (params.mismatch "field" "a non-empty string" d) else return s
  | d => throw (params.mismatch "field" "a non-empty string" d)

/-- A value of any kind. -/
def value (params : Params) (key : String) : Except Error Value := do
  return Value.ofDocument (← params.require key)

/-- A finite number. -/
def number (params : Params) (key : String) : Except Error Float := do
  let d ← params.require key
  match d.number? with
  | some x => if x.isFinite then return x else throw (params.mismatch key "a number" d)
  | none => throw (params.mismatch key "a number" d)

/-- A finite number, or a default when the parameter is not there. -/
def numberOr (params : Params) (key : String) (absent : Float) : Except Error Float :=
  match params.get? key with
  | none => .ok absent
  | some _ => params.number key

/-- A finite number that is not negative. -/
def nonNegative (params : Params) (key : String) : Except Error Float := do
  let x ← params.number key
  if x < 0 then throw (params.invalid key ("must be >= 0, got " ++ displayFloat x))
  return x

/-- A whole number that is not negative. -/
def count (params : Params) (key : String) : Except Error Nat := do
  let d ← params.require key
  match d.count? with
  | some n => return n
  | none => throw (params.mismatch key "a non-negative integer" d)

/-- A comparison. -/
def comparison (params : Params) (key : String) : Except Error Comparison := do
  match ← params.require key with
  | .text s => (Comparison.parse s).mapError (params.invalid key)
  | d => throw (params.mismatch key "a comparison symbol" d)

end Params

end Ensemble
