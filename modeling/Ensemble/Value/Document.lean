import Ensemble.Document.Basic
import Ensemble.Value.Basic

/-!
# Values as documents

Values are written without a tag: an integer as a whole number, a float as a real one, a map as an
object.  A float that JSON cannot write becomes null.

A document is read by its own form (`Value.ofDocument`), or by trying the kinds of value one after
the other until one fits (`Value.firstFit?`).
-/

namespace Ensemble.Value

/-- The integer value of a whole number, if it fits one. -/
def int64? (n : Int) : Option Int64 :=
  if Int64.minValue.toInt ≤ n ∧ n ≤ Int64.maxValue.toInt then some (Int64.ofInt n) else none

/-- The value of a whole number: an integer if it fits one, otherwise the float nearest to it. -/
def ofWhole (n : Int) : Value :=
  match int64? n with
  | some i => .int i
  | none => .float (Float.ofInt n)

/-! ## Reading by form -/

mutual

/-- The value that a document holds. -/
def ofDocument : Document → Value
  | .null => .nil
  | .bool b => .bool b
  | .whole n => ofWhole n
  | .real x => .float x
  | .text s => .string s
  | .array elements => .list (ofElements elements)
  | .object fields => .map (ofFields fields)

/-- The values of the elements of an array. -/
def ofElements : List Document → List Value
  | [] => []
  | d :: ds => ofDocument d :: ofElements ds

/-- The values of the fields of an object. -/
def ofFields : List (String × Document) → List (String × Value)
  | [] => []
  | (key, d) :: fields => (key, ofDocument d) :: ofFields fields

end

/-! ## Trying one kind after the other -/

/-- An integer that fits. -/
def fitInt? : Document → Option Value
  | .whole n => (int64? n).map .int
  | _ => none

mutual

/-- The first of the kinds of value, in the order of their declaration, that fits a document. -/
def firstFit? (d : Document) : Option Value :=
  (match d with | .null => some .nil | _ => none)
    <|> (match d with | .bool b => some (.bool b) | _ => none)
    <|> fitInt? d
    <|> d.number?.map .float
    <|> (match d with | .text s => some (.string s) | _ => none)
    <|> (match d with | .array elements => (firstFitElements? elements).map .list | _ => none)
    <|> (match d with | .object fields => (firstFitFields? fields).map .map | _ => none)

/-- The first fits of the elements of an array. -/
def firstFitElements? : List Document → Option (List Value)
  | [] => some []
  | d :: ds => do return (← firstFit? d) :: (← firstFitElements? ds)

/-- The first fits of the fields of an object. -/
def firstFitFields? : List (String × Document) → Option (List (String × Value))
  | [] => some []
  | (key, d) :: fields => do return (key, ← firstFit? d) :: (← firstFitFields? fields)

end

/-! ## Writing -/

mutual

/-- The document that holds a value. -/
def toDocument : Value → Document
  | .nil => .null
  | .bool flag => .bool flag
  | .int n => .whole n.toInt
  | .float x => Document.ofFloat x
  | .string text => .text text
  | .list items => .array (toElements items)
  | .map entries => .object (toFields entries)

/-- The documents of the elements of a list. -/
def toElements : List Value → List Document
  | [] => []
  | v :: vs => toDocument v :: toElements vs

/-- The documents of the entries of a map. -/
def toFields : List (String × Value) → List (String × Document)
  | [] => []
  | (key, v) :: es => (key, toDocument v) :: toFields es

end

end Ensemble.Value
