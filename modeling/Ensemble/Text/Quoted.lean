import Ensemble.Text.Unseen

/-!
# Quoted text

Text in double quotes, on one line and with every character to be seen.
-/

namespace Ensemble.Text

/-- The digits of a code point in base sixteen. -/
def hex (c : Char) : String := String.ofList (Nat.toDigits 16 c.toNat)

/-- A character inside quotes: the quote, the backslash, line ends and tabs get a backslash, other
unseen characters are written by their code point. -/
def escape (c : Char) : String :=
  match c with
  | '"' => "\\\""
  | '\\' => "\\\\"
  | '\x00' => "\\0"
  | '\t' => "\\t"
  | '\n' => "\\n"
  | '\r' => "\\r"
  | c => if isUnseen c then "\\u\x7b" ++ hex c ++ "\x7d" else c.toString

/-- The text in double quotes. -/
def quote (s : String) : String := "\"" ++ String.join (s.toList.map escape) ++ "\""

end Ensemble.Text
