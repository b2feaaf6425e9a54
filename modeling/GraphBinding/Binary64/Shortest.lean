import GraphBinding.Binary64

namespace GraphBinding

/-! The fewest decimal digits that read back as a given binary64 number.

A decimal reads back as a number exactly if it lies in the interval of reals that
round to it.  For 1, 2, … 17 digits the two neighbours of the number on that decimal
grid are tried; the first grid with a hit wins, and of two hits the nearer.
-/

/-- The number `digits * 10 ^ power`. -/
structure Decimal where
  digits : Nat
  power : Int
deriving DecidableEq, Repr

namespace Decimal

/-- Moves trailing zeros of the digits into the power; at most `fuel` of them. -/
def dropZeros : Nat → Decimal → Decimal
  | 0, decimal => decimal
  | fuel + 1, decimal =>
      if decimal.digits ≠ 0 ∧ decimal.digits % 10 = 0 then
        dropZeros fuel ⟨decimal.digits / 10, decimal.power + 1⟩
      else decimal

end Decimal

namespace Binary64

def digitCount (n : Nat) : Nat := if n = 0 then 0 else (Nat.toDigits 10 n).length

/-- The exponent `m` with `10 ^ (m - 1) ≤ numerator / denominator < 10 ^ m`. -/
def decimalMagnitude (numerator denominator : Nat) : Int :=
  if denominator ≤ numerator then digitCount (numerator / denominator)
  else 1 - digitCount ((denominator - 1) / numerator)

/-- The reals that round to a number, and the number itself, in units of `2 ^ exponent`. -/
structure Interval where
  low : Nat
  middle : Nat
  high : Nat
  exponent : Int
  /-- Whether the two ends round to the number as well. -/
  closed : Bool

/-- The gap below a power of two is half the gap above it, except at the least exponent. -/
def interval (x : Binary64) : Interval :=
  let narrow := x.significand = Nat.pow 2 52 ∧ leastExponent < x.exponent
  { low := 4 * x.significand - (if narrow then 1 else 2)
    middle := 4 * x.significand
    high := 4 * x.significand + 2
    exponent := x.exponent - 2
    closed := x.significand % 2 = 0 }

namespace Interval

/-- The point in units of `2 ^ exponent * 10 ^ power`, over a common denominator with
`gridValue`. -/
def boundValue (i : Interval) (power : Int) (bound : Nat) : Nat :=
  bound * Nat.pow 2 i.exponent.toNat * Nat.pow 10 (-power).toNat

def gridValue (i : Interval) (power : Int) (digits : Nat) : Nat :=
  digits * Nat.pow 10 power.toNat * Nat.pow 2 (-i.exponent).toNat

def contains (i : Interval) (power : Int) (digits : Nat) : Bool :=
  let value := i.gridValue power digits
  let low := i.boundValue power i.low
  let high := i.boundValue power i.high
  if i.closed then low ≤ value && value ≤ high else low < value && value < high

/-- The nearer of the two neighbours of the middle on the grid of `10 ^ power`, if it
lies in the interval; of two equally near ones the even one. -/
def onGrid? (i : Interval) (power : Int) : Option Nat :=
  let middle := i.boundValue power i.middle
  let unit := i.gridValue power 1
  let below := middle / unit
  let above := below + 1
  match i.contains power below, i.contains power above with
  | false, false => none
  | true, false => some below
  | false, true => some above
  | true, true =>
      let fromBelow := middle - below * unit
      let fromAbove := above * unit - middle
      if fromBelow < fromAbove then some below
      else if fromAbove < fromBelow then some above
      else some (below + below % 2)

end Interval

/-- Tries grids of `count - fuel + 1` and more digits, up to `count`. -/
def shortestFrom (i : Interval) (magnitude : Int) (count : Nat) : Nat → Option Decimal
  | 0 => none
  | fuel + 1 =>
      let power := magnitude - (count - fuel : Nat)
      match i.onGrid? power with
      | some digits => some ⟨digits, power⟩
      | none => shortestFrom i magnitude count fuel

/-- The magnitude of the number in the fewest decimal digits that read back. -/
def shortest (x : Binary64) : Decimal :=
  if x.isZero then ⟨0, 0⟩
  else
    let numerator := x.significand * Nat.pow 2 x.exponent.toNat
    let denominator := Nat.pow 2 (-x.exponent).toNat
    let magnitude := decimalMagnitude numerator denominator
    match shortestFrom x.interval magnitude 17 17 with
    | some decimal => decimal.dropZeros 17
    | none => ⟨numerator / denominator, 0⟩

end Binary64

end GraphBinding
