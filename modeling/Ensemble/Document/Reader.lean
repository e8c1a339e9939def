import Ensemble.Document.Basic

/-!
# Reading documents

`Document.parse?` reads a JSON text.  Each reader takes the characters that are left and gives its
result with the characters after it, or nothing when the text breaks the grammar.  Of a key that
occurs twice in an object, the last field counts.
-/

namespace Ensemble.Document

/-- The characters without the blanks at their start. -/
def skipBlanks (cs : List Char) : List Char :=
  cs.dropWhile fun c => c = ' ' || c = '\t' || c = '\n' || c = '\r'

/-! ## Strings -/

/-- The value of a digit in base sixteen. -/
def hexDigit? (c : Char) : Option Nat :=
  if '0' ≤ c && c ≤ '9' then some (c.toNat - 48)
  else if 'a' ≤ c && c ≤ 'f' then some (c.toNat - 87)
  else if 'A' ≤ c && c ≤ 'F' then some (c.toNat - 55)
  else none

/-- The code of four digits in base sixteen. -/
def hexCode? (a b c d : Char) : Option Nat := do
  return ((((← hexDigit? a) * 16 + (← hexDigit? b)) * 16 + (← hexDigit? c)) * 16) + (← hexDigit? d)

/-- The code that a backslash and one character stand for. -/
def shortEscape? : Char → Option Nat
  | '"' => some 34
  | '\\' => some 92
  | '/' => some 47
  | 'b' => some 8
  | 'f' => some 12
  | 'n' => some 10
  | 'r' => some 13
  | 't' => some 9
  | _ => none

/-- The codes of a string up to its closing quote: code points, or 16-bit units written by code. -/
def readCodes : List Char → Option (List Nat × List Char)
  | '"' :: rest => some ([], rest)
  | '\\' :: 'u' :: a :: b :: c :: d :: rest => do
    let code ← hexCode? a b c d
    let (codes, rest) ← readCodes rest
    return (code :: codes, rest)
  | '\\' :: c :: rest => do
    let code ← shortEscape? c
    let (codes, rest) ← readCodes rest
    return (code :: codes, rest)
  | c :: rest =>
    if c.toNat < 32 then none
    else do
      let (codes, rest) ← readCodes rest
      return (c.toNat :: codes, rest)
  | [] => none

/-- Whether a code is the first half of a character outside the first 65536. -/
def isHighHalf (code : Nat) : Bool := 0xd800 ≤ code && code < 0xdc00

/-- Whether a code is the second half of such a character. -/
def isLowHalf (code : Nat) : Bool := 0xdc00 ≤ code && code < 0xe000

/-- The characters of the codes; halves must come in pairs. -/
def joinHalves? : List Nat → Option (List Char)
  | [] => some []
  | code :: rest =>
    if isLowHalf code then none
    else if isHighHalf code then
      match rest with
      | low :: rest =>
        if isLowHalf low then
          (joinHalves? rest).map
            (Char.ofNat (0x10000 + (code - 0xd800) * 1024 + (low - 0xdc00)) :: ·)
        else none
      | [] => none
    else (joinHalves? rest).map (Char.ofNat code :: ·)

/-- A string after its opening quote. -/
def readText (cs : List Char) : Option (String × List Char) := do
  let (codes, rest) ← readCodes cs
  return (String.ofList (← joinHalves? codes), rest)

/-! ## Numbers -/

/-- The number that decimal digits stand for. -/
def digitsValue (digits : List Char) : Nat := digits.foldl (fun n c => 10 * n + (c.toNat - 48)) 0

/-- The digits at the start, at least one. -/
def readDigits (cs : List Char) : Option (List Char × List Char) :=
  match cs.takeWhile Char.isDigit with
  | [] => none
  | digits => some (digits, cs.dropWhile Char.isDigit)

/-- The digits before the point: a zero stands alone. -/
def readWhole (cs : List Char) : Option (List Char × List Char) :=
  match cs with
  | '0' :: rest => if (rest.takeWhile Char.isDigit).isEmpty then some (['0'], rest) else none
  | cs => readDigits cs

/-- The digits after a point, if there is one. -/
def readFraction (cs : List Char) : Option (Option (List Char) × List Char) :=
  match cs with
  | '.' :: rest => (readDigits rest).map fun (digits, rest) => (some digits, rest)
  | cs => some (none, cs)

/-- The exponent, if there is one. -/
def readExponent (cs : List Char) : Option (Option Int × List Char) :=
  let signed (rest : List Char) : Option (Option Int × List Char) :=
    match rest with
    | '-' :: rest => (readDigits rest).map fun (ds, rest) => (some (-(digitsValue ds : Int)), rest)
    | '+' :: rest => (readDigits rest).map fun (ds, rest) => (some (digitsValue ds : Int), rest)
    | rest => (readDigits rest).map fun (ds, rest) => (some (digitsValue ds : Int), rest)
  match cs with
  | 'e' :: rest => signed rest
  | 'E' :: rest => signed rest
  | cs => some (none, cs)

/-- The float nearest to `digits · 10 ^ exponent`, ties to even.  Beyond `10 ^ 400` it is infinite
and below `10 ^ -400` zero, so that no huge power is computed. -/
def scaled (digits : Nat) (exponent : Int) : Float :=
  if digits = 0 || exponent < -(400 + (digits.log2 : Int)) then 0
  else if 400 < exponent then 1 / 0
  else if 0 ≤ exponent then Float.ofScientific digits false exponent.toNat
  else Float.ofScientific digits true (-exponent).toNat

/-- The document of a number.  A whole number that fits neither the signed nor the unsigned words of
64 bits, and a negative zero, are real. -/
def numeral (negative : Bool) (front : List Char) (fraction : Option (List Char))
    (exponent : Option Int) : Option Document :=
  let signed (x : Float) : Option Document :=
    if x.isFinite then some (.real (if negative then -x else x)) else none
  match fraction, exponent with
  | none, none =>
    let n := digitsValue front
    if negative then
      if 0 < n ∧ n ≤ Int64.size / 2 then some (.whole (-(n : Int))) else signed (scaled n 0)
    else if n < UInt64.size then some (.whole n) else signed (scaled n 0)
  | fraction, exponent =>
    let places := fraction.getD []
    signed (scaled (digitsValue (front ++ places)) (exponent.getD 0 - places.length))

/-- A number. -/
def readNumber (cs : List Char) : Option (Document × List Char) := do
  let (negative, cs) := match cs with
    | '-' :: rest => (true, rest)
    | cs => (false, cs)
  let (front, cs) ← readWhole cs
  let (fraction, cs) ← readFraction cs
  let (exponent, cs) ← readExponent cs
  return (← numeral negative front fraction exponent, cs)

/-! ## Values -/

mutual

/-- A value.  Every step down uses up one unit of `fuel` and at least one character. -/
def readValue : (fuel : Nat) → List Char → Option (Document × List Char)
  | 0, _ => none
  | fuel + 1, cs =>
    match skipBlanks cs with
    | 'n' :: 'u' :: 'l' :: 'l' :: rest => some (.null, rest)
    | 't' :: 'r' :: 'u' :: 'e' :: rest => some (.bool true, rest)
    | 'f' :: 'a' :: 'l' :: 's' :: 'e' :: rest => some (.bool false, rest)
    | '"' :: rest => (readText rest).map fun (s, rest) => (.text s, rest)
    | '[' :: rest =>
      match skipBlanks rest with
      | ']' :: rest => some (.array [], rest)
      | rest => (readElements fuel rest).map fun (ds, rest) => (.array ds, rest)
    | '\x7b' :: rest =>
      match skipBlanks rest with
      | '\x7d' :: rest => some (.object [], rest)
      | rest => (readFields fuel rest).map fun (fields, rest) => (ofFields fields, rest)
    | rest => readNumber rest

/-- One or more elements and the closing bracket. -/
def readElements : (fuel : Nat) → List Char → Option (List Document × List Char)
  | 0, _ => none
  | fuel + 1, cs => do
    let (d, rest) ← readValue fuel cs
    match skipBlanks rest with
    | ',' :: rest =>
      let (ds, rest) ← readElements fuel rest
      return (d :: ds, rest)
    | ']' :: rest => return ([d], rest)
    | _ => none

/-- One or more fields and the closing brace. -/
def readFields : (fuel : Nat) → List Char → Option (List (String × Document) × List Char)
  | 0, _ => none
  | fuel + 1, cs => do
    match skipBlanks cs with
    | '"' :: rest =>
      let (key, rest) ← readText rest
      match skipBlanks rest with
      | ':' :: rest =>
        let (d, rest) ← readValue fuel rest
        match skipBlanks rest with
        | ',' :: rest =>
          let (fields, rest) ← readFields fuel rest
          return ((key, d) :: fields, rest)
        | '\x7d' :: rest => return ([(key, d)], rest)
        | _ => none
      | _ => none
    | _ => none

end

/-- The document of a JSON text. -/
def parse? (text : String) : Option Document :=
  let cs := text.toList
  match readValue (cs.length + 1) cs with
  | some (d, rest) => if (skipBlanks rest).isEmpty then some d else none
  | none => none

end Ensemble.Document
