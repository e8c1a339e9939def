/-!
# The shortest decimal of a float

A finite float stands for all reals that round to it.  `Binary.shortest` finds, by exact arithmetic
on naturals, the decimal with the fewest digits among those reals, and of several the one nearest to
the float itself; `Tie` says which of two equally near ones is taken.
-/

namespace Ensemble.Decimal

/-- The positive number `digits · 10 ^ exponent`. -/
structure Digits where
  digits : Nat
  exponent : Int
  deriving DecidableEq, Repr

/-- Which of two equally near decimals is taken. -/
inductive Tie where
  | up
  | even
  deriving DecidableEq, Repr

/-- A positive finite float `significand · 2 ^ exponent` among its neighbours. -/
structure Binary where
  significand : Nat
  exponent : Int
  /-- The float below is only half as far away as the float above. -/
  narrow : Bool
  deriving DecidableEq, Repr

namespace Binary

/-- The magnitude of the finite float with the given bits. -/
def ofBits (bits : UInt64) : Binary :=
  let fraction := (bits &&& 0xfffffffffffff).toNat
  let field := ((bits >>> 52) &&& 0x7ff).toNat
  if field = 0 then ⟨fraction, -1074, false⟩
  else ⟨0x10000000000000 + fraction, (field : Int) - 1075, fraction == 0 && field > 1⟩

/-! ## Decimal grids

On the grid of the multiples of `10 ^ k`, a float is compared with a grid point by scaling both to
naturals.  The float and the ends of its interval are counted in quarters of its last binary place:
`4 · significand` for the float, two more for the upper end, one or two less for the lower one. -/

/-- The lower end of the interval of reals that round to the float, in quarters. -/
def low (b : Binary) : Nat := 4 * b.significand - if b.narrow then 1 else 2

/-- The upper end of the interval, in quarters. -/
def high (b : Binary) : Nat := 4 * b.significand + 2

/-- The size of one step of the grid of `10 ^ k`, on the common scale. -/
def step (b : Binary) (k : Int) : Nat := Nat.pow 10 k.toNat * Nat.pow 2 (2 - b.exponent).toNat

/-- The size of a quarter of the last binary place, on the common scale. -/
def quarter (b : Binary) (k : Int) : Nat :=
  Nat.pow 2 (b.exponent - 2).toNat * Nat.pow 10 (-k).toNat

/-- Whether `n · 10 ^ k` rounds to the float.  The ends do when the significand is even. -/
def reaches (b : Binary) (k : Int) (n : Nat) : Bool :=
  let point := n * b.step k
  if b.significand % 2 = 0 then
    b.low * b.quarter k ≤ point && point ≤ b.high * b.quarter k
  else
    b.low * b.quarter k < point && point < b.high * b.quarter k

/-- The last grid point of `10 ^ k` that is not above the float. -/
def below (b : Binary) (k : Int) : Nat := 4 * b.significand * b.quarter k / b.step k

/-- The point of the grid of `10 ^ k` nearest to the float, if it rounds to the float. -/
def nearest? (b : Binary) (tie : Tie) (k : Int) : Option Nat :=
  let n := b.below k
  match b.reaches k n, b.reaches k (n + 1) with
  | false, false => none
  | true, false => some n
  | false, true => some (n + 1)
  | true, true =>
    match compare (8 * b.significand * b.quarter k) ((2 * n + 1) * b.step k), tie with
    | .lt, _ => some n
    | .gt, _ => some (n + 1)
    | .eq, .up => some (n + 1)
    | .eq, .even => some (if n % 2 = 0 then n else n + 1)

/-- The first grid from `10 ^ k` downwards with a point that rounds to the float. -/
def search (b : Binary) (tie : Tie) : (grids : Nat) → (k : Int) → Digits
  | 0, k => ⟨b.below k, k⟩
  | grids + 1, k =>
    match b.nearest? tie k with
    | some n => ⟨n, k⟩
    | none => search b tie grids (k - 1)

/-- A grid coarser than the float: its exponent is at least the decimal logarithm. -/
def coarsest (b : Binary) : Int :=
  ((b.high.log2 : Int) + b.exponent - 1) * 30103 / 100000 + 1

end Binary

/-- Moves zeros at the end of the digits into the exponent. -/
def Digits.trim : (zeros : Nat) → Digits → Digits
  | 0, d => d
  | zeros + 1, d => if d.digits % 10 = 0 then trim zeros ⟨d.digits / 10, d.exponent + 1⟩ else d

/-- The shortest decimal that rounds to the float.  Seventeen digits always suffice. -/
def Binary.shortest (b : Binary) (tie : Tie) : Digits :=
  (b.search tie 20 b.coarsest).trim 20

end Ensemble.Decimal
