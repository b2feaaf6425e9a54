namespace GraphBinding

/-! Finite binary64 numbers as a sign and an integer multiple of a power of two.

All operations are exact integer arithmetic followed by one rounding, so that they
compute in the kernel as they do at run time.  A result whose magnitude does not
fit is `none`; one that is too small becomes a zero of its sign.
-/

/-- The number `± significand * 2 ^ exponent`.  Numbers made by `ofRatio?` have
`2 ^ 52 ≤ significand < 2 ^ 53`, or else the least exponent `-1074`. -/
structure Binary64 where
  negative : Bool
  significand : Nat
  exponent : Int
deriving DecidableEq, Repr

namespace Binary64

def leastExponent : Int := -1074

def greatestExponent : Int := 971

def zero (negative : Bool) : Binary64 := ⟨negative, 0, leastExponent⟩

instance : Inhabited Binary64 := ⟨zero false⟩

def isZero (x : Binary64) : Bool := x.significand == 0

def withSign (negative : Bool) (x : Binary64) : Binary64 := { x with negative }

/-- The quotient rounded to the nearest natural number, a half to the even one. -/
def roundedQuotient (numerator denominator : Nat) : Nat :=
  let quotient := numerator / denominator
  let remainder := 2 * (numerator % denominator)
  if remainder < denominator then quotient
  else if denominator < remainder then quotient + 1
  else quotient + quotient % 2

/-- Numerator and denominator of `numerator / denominator / 2 ^ exponent`. -/
def scaledRatio (numerator denominator : Nat) (exponent : Int) : Nat × Nat :=
  (numerator * Nat.pow 2 (-exponent).toNat, denominator * Nat.pow 2 exponent.toNat)

/-- The nearest number to `± numerator / denominator`, a tie to the even significand. -/
def ofRatio? (negative : Bool) (numerator denominator : Nat) : Option Binary64 :=
  if numerator = 0 then some (zero negative)
  else
    let estimate : Int := (numerator.log2 : Int) - denominator.log2 - 52
    let (scaledNumerator, scaledDenominator) := scaledRatio numerator denominator estimate
    let fitting :=
      if scaledNumerator < Nat.pow 2 52 * scaledDenominator then estimate - 1 else estimate
    let exponent := max leastExponent fitting
    let (scaledNumerator, scaledDenominator) := scaledRatio numerator denominator exponent
    let significand := roundedQuotient scaledNumerator scaledDenominator
    let (significand, exponent) :=
      if significand = Nat.pow 2 53 then (Nat.pow 2 52, exponent + 1) else (significand, exponent)
    if greatestExponent < exponent then none else some ⟨negative, significand, exponent⟩

def ofNat? (n : Nat) : Option Binary64 := ofRatio? false n 1

def mul? (x y : Binary64) : Option Binary64 :=
  let exponent := x.exponent + y.exponent
  ofRatio? (x.negative != y.negative) (x.significand * y.significand * Nat.pow 2 exponent.toNat)
    (Nat.pow 2 (-exponent).toNat)

/-- There is no quotient by zero. -/
def div? (x y : Binary64) : Option Binary64 :=
  if y.isZero then none
  else
    let exponent := x.exponent - y.exponent
    ofRatio? (x.negative != y.negative) (x.significand * Nat.pow 2 exponent.toNat)
      (y.significand * Nat.pow 2 (-exponent).toNat)

/-- The greatest power of ten that is itself a number. -/
def greatestTenPower : Nat := 308

/-- The number nearest to a power of ten. -/
def tenPower? (power : Nat) : Option Binary64 := ofNat? (Nat.pow 10 power)

/-- Divides by the greatest power of ten, `count` times or until nothing is left. -/
def divTenPowers? : Nat → Binary64 → Option Binary64
  | 0, x => some x
  | count + 1, x =>
      if x.isZero then some x
      else ((tenPower? greatestTenPower).bind x.div?).bind (divTenPowers? count)

/-- Multiplies by `10 ^ power`: in one rounded operation if that power of ten is a number,
otherwise after dividing by the greatest one as often as needed. -/
def scaleByTen? (x : Binary64) (power : Int) : Option Binary64 :=
  if 0 ≤ power then
    if power.toNat ≤ greatestTenPower then (tenPower? power.toNat).bind x.mul?
    else if x.isZero then some x
    else none
  else
    let down := (-power).toNat
    let count := (down - 1) / greatestTenPower
    (divTenPowers? count x).bind fun rest =>
      (tenPower? (down - count * greatestTenPower)).bind rest.div?

end Binary64

end GraphBinding
