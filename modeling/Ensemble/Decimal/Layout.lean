import Ensemble.Decimal.Shortest

/-!
# Writing floats

`Layout` holds the decisions of one number format: which magnitudes are written without an
exponent, what marks a whole number, how an exponent is signed, and which way ties go.
`Layout.render` writes a float by them.
-/

namespace Ensemble.Decimal

/-- The decisions of a number format. -/
structure Layout where
  /-- Numbers whose leading digit stands for `10 ^ e` with `e` from the first bound up to, but not
  at, the second are written without an exponent; all are when there are no bounds. -/
  positional : Option (Int × Int)
  /-- Follows a whole number that is written without an exponent. -/
  wholeMark : String
  /-- Precedes an exponent that is not negative. -/
  plusMark : String
  tie : Tie

/-- The given number of zeros. -/
def zeros (n : Nat) : List Char := List.replicate n '0'

namespace Digits

/-- The digits as characters. -/
def chars (d : Digits) : List Char := Nat.toDigits 10 d.digits

/-- The power of ten that the leading digit stands for. -/
def leading (d : Digits) : Int := (d.chars.length : Int) + d.exponent - 1

/-- The number without an exponent. -/
def positional (d : Digits) (wholeMark : String) : String :=
  if 0 ≤ d.exponent then
    String.ofList (d.chars ++ zeros d.exponent.toNat) ++ wholeMark
  else
    let point := d.leading + 1
    if 0 < point then
      String.ofList (d.chars.take point.toNat ++ '.' :: d.chars.drop point.toNat)
    else
      String.ofList ('0' :: '.' :: zeros (-point).toNat ++ d.chars)

/-- The number with one digit before the point and an exponent. -/
def scientific (d : Digits) (plusMark : String) : String :=
  let mantissa := match d.chars with
    | first :: rest@(_ :: _) => first :: '.' :: rest
    | digits => digits
  let sign := if d.leading < 0 then "-" else plusMark
  String.ofList mantissa ++ "e" ++ sign ++ Nat.repr d.leading.natAbs

end Digits

namespace Layout

/-- Writes a positive decimal. -/
def renderDigits (layout : Layout) (d : Digits) : String :=
  match layout.positional with
  | none => d.positional layout.wholeMark
  | some (first, last) =>
    if first ≤ d.leading && d.leading < last then d.positional layout.wholeMark
    else d.scientific layout.plusMark

/-- Writes a float. -/
def render (layout : Layout) (x : Float) : String :=
  if x.isNaN then "NaN"
  else
    let bits := x.toBits
    let sign := if bits >>> 63 = 1 then "-" else ""
    if x.isInf then sign ++ "inf"
    else
      let magnitude := Binary.ofBits bits
      if magnitude.significand = 0 then sign ++ "0" ++ layout.wholeMark
      else sign ++ layout.renderDigits (magnitude.shortest layout.tie)

end Layout

end Ensemble.Decimal
