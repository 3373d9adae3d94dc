/-!
# Binary fractions of 64 bits

The numbers of the IEEE 754 format binary64 as data: a sign, a whole significand and a power
of two. Rounding a quotient to the nearest such number, ties to an even significand, is the one
operation; the others are it, applied to an exact result.
-/

namespace Outreach

/-- A finite binary64 number: `significand * 2 ^ exponent`, negated when `negative` is set. The
significand has 53 bits, or fewer with the least exponent. -/
structure Binary64 where
  /-- Whether the number carries a minus sign; zero may carry one too. -/
  negative : Bool
  /-- The whole number that is scaled. -/
  significand : Nat
  /-- The power of two it is scaled by. -/
  exponent : Int
deriving DecidableEq, Inhabited

namespace Binary64

/-- The least exponent of a binary64 number. -/
def leastExponent : Int := -1074

/-- The greatest exponent of a binary64 number. -/
def greatestExponent : Int := 971

/-- The quotient rounded to the nearest whole number, a half to the even neighbour. -/
def roundedQuotient (numerator denominator : Nat) : Nat :=
  let floor := numerator / denominator
  let twice := 2 * (numerator % denominator)
  if twice < denominator then floor
  else if denominator < twice then floor + 1
  else if floor % 2 = 0 then floor else floor + 1

/-- The number nearest to a quotient of positive whole numbers; `none` when that is past the
greatest number. -/
def ofQuotient? (negative : Bool) (numerator denominator : Nat) : Option Binary64 :=
  if numerator = 0 then some ⟨negative, 0, leastExponent⟩
  else
    -- The quotient has `magnitude` or `magnitude + 1` binary digits before its point.
    let magnitude : Int := Int.ofNat numerator.log2 - Int.ofNat denominator.log2
    let scaledBy (exponent : Int) : Nat :=
      if 0 <= exponent then roundedQuotient numerator (denominator * Nat.pow 2 exponent.toNat)
      else roundedQuotient (numerator * Nat.pow 2 (-exponent).toNat) denominator
    let tooFine (exponent : Int) : Bool :=
      if 0 <= exponent then denominator * Nat.pow 2 exponent.toNat * Nat.pow 2 53 <= numerator
      else denominator * Nat.pow 2 53 <= numerator * Nat.pow 2 (-exponent).toNat
    let guess := max (magnitude - 53) leastExponent
    let exponent := if tooFine guess then guess + 1 else guess
    let significand := scaledBy exponent
    let (significand, exponent) :=
      if significand = Nat.pow 2 53 then (Nat.pow 2 52, exponent + 1) else (significand, exponent)
    if greatestExponent < exponent then none else some ⟨negative, significand, exponent⟩

/-- The number nearest to a whole number. -/
def ofNat? (negative : Bool) (n : Nat) : Option Binary64 := ofQuotient? negative n 1

/-- The number nearest to a power of ten. -/
def powerOfTen? (exponent : Nat) : Option Binary64 := ofNat? false (Nat.pow 10 exponent)

/-- The product, rounded. -/
def mul? (left right : Binary64) : Option Binary64 :=
  let exponent := left.exponent + right.exponent
  let product := left.significand * right.significand
  let negative := left.negative != right.negative
  if 0 <= exponent then ofQuotient? negative (product * Nat.pow 2 exponent.toNat) 1
  else ofQuotient? negative product (Nat.pow 2 (-exponent).toNat)

/-- The quotient, rounded; the divisor must not be zero. -/
def div? (left right : Binary64) : Option Binary64 :=
  let exponent := left.exponent - right.exponent
  let negative := left.negative != right.negative
  if 0 <= exponent then
    ofQuotient? negative (left.significand * Nat.pow 2 exponent.toNat) right.significand
  else ofQuotient? negative left.significand (right.significand * Nat.pow 2 (-exponent).toNat)

/-- The number that `significand * 10 ^ exponent` is read as. The significand and the power of
ten are each rounded before they are multiplied or divided, and a power below `10 ^ -308` is
divided out in two steps. -/
def ofDecimal? (negative : Bool) (significand : Nat) (exponent : Int) : Option Binary64 := do
  let start <- ofNat? negative significand
  if 0 <= exponent then
    if 308 < exponent then
      if significand = 0 then some start else none
    else start.mul? (<- powerOfTen? exponent.toNat)
  else if -308 <= exponent then start.div? (<- powerOfTen? (-exponent).toNat)
  else
    let smaller <- start.div? (<- powerOfTen? 308)
    let remaining := exponent + 308
    if -308 <= remaining then smaller.div? (<- powerOfTen? (-remaining).toNat)
    else some ⟨negative, 0, leastExponent⟩

end Binary64

end Outreach
