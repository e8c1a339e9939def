import Ensemble.Dictionary

/-!
# Documents

A document is the data of a JSON text: what schemas, items, rules and results are written as.
Whole and real numbers are told apart by how they are written, and the fields of an object are in
ascending key order.
-/

namespace Ensemble

/-- The data of a JSON text. -/
inductive Document where
  | null
  | bool (b : Bool)
  /-- A number without a fraction and an exponent. -/
  | whole (n : Int)
  /-- Any other number; a document holds finite ones only. -/
  | real (x : Float)
  | text (s : String)
  | array (elements : List Document)
  | object (fields : List (String × Document))
  deriving Inhabited

namespace Document

/-- The object with the given fields, in ascending key order. -/
def ofFields (fields : List (String × Document)) : Document := .object (Entries.ofList fields)

/-- A float as a document.  JSON has no notation for the others, which become null. -/
def ofFloat (x : Float) : Document := if x.isFinite then .real x else .null

/-- A count as a document. -/
def ofNat (n : Nat) : Document := .whole n

/-- Texts as a document. -/
def ofTexts (texts : List String) : Document := .array (texts.map .text)

/-- The number, whichever way it is written. -/
def number? : Document → Option Float
  | .whole n => some (Float.ofInt n)
  | .real x => some x
  | _ => none

/-- The number, if it is written as one that is whole and not negative. -/
def count? : Document → Option Nat
  | .whole (.ofNat n) => some n
  | _ => none

end Document

end Ensemble
