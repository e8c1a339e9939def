import Ensemble.Decimal.Layout
import Ensemble.Document.Basic

/-!
# Printing documents

The compact text of a document: no blanks, fields in their order, only what has to be escaped
escaped.  Messages quote documents this way.
-/

namespace Ensemble.Document

/-- Numbers are positional from `10⁻⁵` up to `10¹⁶`, whole ones with a fraction of zero; an exponent
carries its sign, and a tie goes to the even digit. -/
def numberLayout : Decimal.Layout := ⟨some (-5, 16), ".0", "+", .even⟩

/-- Four digits in base sixteen. -/
def hex4 (n : Nat) : String :=
  let digits := Nat.toDigits 16 n
  String.ofList (List.replicate (4 - digits.length) '0' ++ digits)

/-- A character inside a string of a JSON text. -/
def escape (c : Char) : String :=
  match c with
  | '"' => "\\\""
  | '\\' => "\\\\"
  | '\x08' => "\\b"
  | '\x0c' => "\\f"
  | '\n' => "\\n"
  | '\r' => "\\r"
  | '\t' => "\\t"
  | c => if c.toNat < 32 then "\\u" ++ hex4 c.toNat else c.toString

/-- A string of a JSON text. -/
def quote (s : String) : String := "\"" ++ String.join (s.toList.map escape) ++ "\""

mutual

/-- The compact JSON text of a document. -/
def compact : Document → String
  | .null => "null"
  | .bool b => if b then "true" else "false"
  | .whole n => toString n
  | .real x => numberLayout.render x
  | .text s => quote s
  | .array elements => "[" ++ ",".intercalate (compactElements elements) ++ "]"
  | .object fields => "\x7b" ++ ",".intercalate (compactFields fields) ++ "\x7d"

/-- The texts of the elements. -/
def compactElements : List Document → List String
  | [] => []
  | d :: ds => compact d :: compactElements ds

/-- The texts of the fields. -/
def compactFields : List (String × Document) → List String
  | [] => []
  | (key, d) :: fields => (quote key ++ ":" ++ compact d) :: compactFields fields

end

end Ensemble.Document
