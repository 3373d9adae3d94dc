import Outreach.Decimal.Binary64
import Outreach.Text.Digits

/-!
# Shortest decimals

The decimal text of a binary64 number has the fewest digits that still read back as that
number, and of those the nearest. Numbers of moderate size are written with a point and at
least one digit on both sides of it, the others with an exponent that carries its sign.
-/

namespace Outreach.Binary64

/-- A decimal number `digits * 10 ^ scale`. -/
structure Decimal where
  /-- The digits as a whole number. -/
  digits : Nat
  /-- The power of ten. -/
  scale : Int

/-- A positive rational number. -/
structure Fraction where
  /-- What is divided. -/
  numerator : Nat
  /-- What it is divided by. -/
  denominator : Nat

/-- A fraction times a power of two. -/
def Fraction.scaled (numerator : Nat) (exponent : Int) : Fraction :=
  if 0 <= exponent then ⟨numerator * Nat.pow 2 exponent.toNat, 1⟩
  else ⟨numerator, Nat.pow 2 (-exponent).toNat⟩

/-- Four times the number, and the ends of the interval that rounds to it, all over one
denominator. Below the least significand of a binade the numbers lie half as far apart. -/
structure Neighbourhood where
  /-- The lower end of the interval. -/
  low : Nat
  /-- The number itself. -/
  middle : Nat
  /-- The upper end of the interval. -/
  high : Nat
  /-- The common denominator. -/
  denominator : Nat
  /-- Whether the ends belong to the interval. -/
  closed : Bool

/-- The interval of the real numbers that round to a positive number. -/
def neighbourhood (x : Binary64) : Neighbourhood :=
  let low :=
    if x.significand = Nat.pow 2 52 && leastExponent < x.exponent then 4 * x.significand - 1
    else 4 * x.significand - 2
  let lift (n : Nat) : Nat := if 0 <= x.exponent then n * Nat.pow 2 x.exponent.toNat else n
  { low := lift low
    middle := lift (4 * x.significand)
    high := lift (4 * x.significand + 2)
    denominator := if 0 <= x.exponent then 4 else 4 * Nat.pow 2 (-x.exponent).toNat
    closed := x.significand % 2 = 0 }

/-- Whether `digits * 10 ^ scale` lies in the interval. -/
def Neighbourhood.holds (interval : Neighbourhood) (digits : Nat) (scale : Int) : Bool :=
  let value := if 0 <= scale then digits * Nat.pow 10 scale.toNat * interval.denominator
    else digits * interval.denominator
  let lift (n : Nat) : Nat := if 0 <= scale then n else n * Nat.pow 10 (-scale).toNat
  if interval.closed then lift interval.low <= value && value <= lift interval.high
  else lift interval.low < value && value < lift interval.high

/-- The decimal nearest to the number among those of the grid `10 ^ scale` that read back as
it; at equal distance the even one. -/
def Neighbourhood.nearestOnGrid? (interval : Neighbourhood) (scale : Int) : Option Decimal :=
  let numerator := if 0 <= scale then interval.middle
    else interval.middle * Nat.pow 10 (-scale).toNat
  let denominator := if 0 <= scale then interval.denominator * Nat.pow 10 scale.toNat
    else interval.denominator
  let below := numerator / denominator
  let twice := 2 * (numerator % denominator)
  let belowFirst := twice < denominator || (twice = denominator && below % 2 = 0)
  let candidates := if belowFirst then [below, below + 1] else [below + 1, below]
  (candidates.find? (fun digits => interval.holds digits scale)).map (fun digits => ⟨digits, scale⟩)

/-- The greatest power of ten that a positive quotient reaches, counted from a guess. -/
def decimalMagnitude (numerator denominator : Nat) : Int :=
  let reaches (power : Int) : Bool :=
    if 0 <= power then denominator * Nat.pow 10 power.toNat <= numerator
    else denominator <= numerator * Nat.pow 10 (-power).toNat
  let guess : Int := ((Int.ofNat numerator.log2 - Int.ofNat denominator.log2) * 30103) / 100000
  if reaches (guess + 1) then guess + 1
  else if reaches guess then guess
  else guess - 1

/-- The shortest decimal that reads back as a positive number. -/
def shortest (x : Binary64) : Decimal :=
  let interval := x.neighbourhood
  let magnitude := decimalMagnitude interval.middle interval.denominator
  let grids := (List.range 17).map (fun count => magnitude - Int.ofNat count)
  ((grids.findSome? interval.nearestOnGrid?).getD ⟨x.significand, 0⟩)

/-- A decimal without the zeros at the end of its digits. -/
def Decimal.withoutTrailingZeros (decimal : Decimal) : Decimal :=
  let digits := Digits.ofNat decimal.digits
  let zeros := (digits.reverse.takeWhile (· = '0')).length
  ⟨decimal.digits / Nat.pow 10 zeros, decimal.scale + zeros⟩

/-- The decimal text of a number: positional when the first digit stands for a power of ten
from `10 ^ -5` to `10 ^ 15`, with an exponent otherwise. -/
def text (x : Binary64) : List Char :=
  let sign := if x.negative then ['-'] else []
  if x.significand = 0 then sign ++ ['0', '.', '0']
  else
    let decimal := x.shortest.withoutTrailingZeros
    let digits := Digits.ofNat decimal.digits
    let leading : Int := Int.ofNat digits.length - 1 + decimal.scale
    if 0 <= leading && leading <= 15 then
      let whole := leading.toNat + 1
      let digits := digits ++ List.replicate (whole - digits.length) '0'
      let fraction := digits.drop whole
      sign ++ digits.take whole ++ '.' :: (if fraction.isEmpty then ['0'] else fraction)
    else if -5 <= leading && leading < 0 then
      sign ++ ['0', '.'] ++ List.replicate ((-leading).toNat - 1) '0' ++ digits
    else
      let fraction := digits.drop 1
      let exponent := (if leading < 0 then '-' else '+') :: Digits.ofNat leading.natAbs
      sign ++ digits.take 1 ++ (if fraction.isEmpty then [] else '.' :: fraction) ++
        'e' :: exponent

end Outreach.Binary64
