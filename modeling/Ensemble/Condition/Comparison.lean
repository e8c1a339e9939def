import Ensemble.Document.Record

/-!
# Numeric comparisons

The comparisons that operators take as a parameter, written as a symbol or as a word.
-/

namespace Ensemble

/-- A comparison of two numbers. -/
inductive Comparison where
  | lt
  | le
  | gt
  | ge
  | eq
  | ne
  deriving DecidableEq, Repr

namespace Comparison

/-- Whether two numbers compare so. -/
def holds : Comparison → Float → Float → Bool
  | .lt, x, y => x < y
  | .le, x, y => x ≤ y
  | .gt, x, y => x > y
  | .ge, x, y => x ≥ y
  | .eq, x, y => x == y
  | .ne, x, y => x != y

/-- The symbol of a comparison. -/
def symbol : Comparison → String
  | .lt => "<"
  | .le => "<="
  | .gt => ">"
  | .ge => ">="
  | .eq => "=="
  | .ne => "!="

/-- The comparison of a symbol or a word. -/
def ofText? : String → Option Comparison
  | "<" | "lt" => some .lt
  | "<=" | "lte" | "le" => some .le
  | ">" | "gt" => some .gt
  | ">=" | "gte" | "ge" => some .ge
  | "==" | "=" | "eq" => some .eq
  | "!=" | "ne" => some .ne
  | _ => none

/-- The comparison of a symbol or a word, or a message that names the symbols. -/
def parse (text : String) : Except String Comparison :=
  match ofText? text with
  | some c => .ok c
  | none => .error ("unknown comparison `" ++ text ++ "`, expected one of <, <=, >, >=, ==, !=")

/-- The name used in documents. -/
def name : Comparison → String
  | .lt => "Lt"
  | .le => "Le"
  | .gt => "Gt"
  | .ge => "Ge"
  | .eq => "Eq"
  | .ne => "Ne"

/-- The comparison with a name. -/
def ofName? : String → Option Comparison
  | "Lt" => some .lt
  | "Le" => some .le
  | "Gt" => some .gt
  | "Ge" => some .ge
  | "Eq" => some .eq
  | "Ne" => some .ne
  | _ => none

/-- The document of a comparison. -/
def toDocument (c : Comparison) : Document := .text c.name

/-- The comparison that a document holds. -/
def ofDocument (d : Document) : Except Fault Comparison := Document.toVariant ofName? d

end Comparison

end Ensemble
