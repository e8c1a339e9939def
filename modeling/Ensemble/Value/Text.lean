import Ensemble.Decimal.Layout
import Ensemble.Text.Quoted
import Ensemble.Value.Basic

/-!
# Values as text

`Value.display` is for messages: texts are bare and whole floats have no fraction.
`Value.describe` is for inspection: texts are quoted and floats are told apart from integers.
-/

namespace Ensemble

/-- Floats in messages: never an exponent, and no fraction for whole numbers. -/
def displayLayout : Decimal.Layout := ⟨none, "", "", .up⟩

/-- Floats under inspection: a fraction always, and an exponent below `10⁻⁴` and from `10¹⁶`. -/
def inspectLayout : Decimal.Layout := ⟨some (-4, 16), ".0", "", .up⟩

/-- A float in a message. -/
def displayFloat (x : Float) : String := displayLayout.render x

namespace Value

mutual

/-- The text of a value in messages. -/
def display : Value → String
  | .nil => "nil"
  | .bool flag => if flag then "true" else "false"
  | .int n => toString n.toInt
  | .float x => displayFloat x
  | .string text => text
  | .list items => "[" ++ ", ".intercalate (displayItems items) ++ "]"
  | .map entries => "\x7b" ++ ", ".intercalate (displayEntries entries) ++ "\x7d"

/-- The texts of the elements of a list. -/
def displayItems : List Value → List String
  | [] => []
  | v :: vs => display v :: displayItems vs

/-- The texts of the entries of a map. -/
def displayEntries : List (String × Value) → List String
  | [] => []
  | (key, v) :: es => (key ++ ": " ++ display v) :: displayEntries es

end

mutual

/-- The text of a value under inspection. -/
def describe : Value → String
  | .nil => "nil"
  | .bool flag => if flag then "true" else "false"
  | .int n => toString n.toInt
  | .float x => inspectLayout.render x
  | .string text => Text.quote text
  | .list items => "[" ++ ", ".intercalate (describeItems items) ++ "]"
  | .map entries => "\x7b" ++ ", ".intercalate (describeEntries entries) ++ "\x7d"

/-- The texts of the elements of a list. -/
def describeItems : List Value → List String
  | [] => []
  | v :: vs => describe v :: describeItems vs

/-- The texts of the entries of a map. -/
def describeEntries : List (String × Value) → List String
  | [] => []
  | (key, v) :: es => (Text.quote key ++ ": " ++ describe v) :: describeEntries es

end

end Value

end Ensemble
