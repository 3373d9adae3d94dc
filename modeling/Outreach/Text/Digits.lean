/-!
# Decimal digits

Whole numbers as decimal texts: without leading zeros, padded to a width, and read back.
-/

namespace Outreach.Digits

/-- The digit of a value below ten. -/
def digit (value : Nat) : Char := Char.ofNat (48 + value)

/-- The value of a decimal digit. -/
def value? (c : Char) : Option Nat :=
  if '0' <= c && c <= '9' then some (c.toNat - 48) else none

/-- Whether a character is a decimal digit of the ASCII range. -/
def isDigit (c : Char) : Bool := '0' <= c && c <= '9'

/-- The decimal digits of a number, without leading zeros. -/
def ofNat (n : Nat) : List Char :=
  if n < 10 then [digit n] else ofNat (n / 10) ++ [digit (n % 10)]

/-- The decimal digits of a number, with zeros in front up to a width. -/
def padded (width n : Nat) : List Char :=
  let digits := ofNat n
  List.replicate (width - digits.length) '0' ++ digits

/-- The decimal digits of a whole number, with a minus sign when it is negative. -/
def ofInt (n : Int) : List Char :=
  if n < 0 then '-' :: ofNat n.natAbs else ofNat n.natAbs

/-- The number that a list of digits continues, given the number before it. -/
def continued? (before : Nat) : List Char -> Option Nat
  | [] => some before
  | c :: rest =>
    match value? c with
    | some value => continued? (before * 10 + value) rest
    | none => none

/-- The number written by one or more digits. -/
def toNat? : List Char -> Option Nat
  | [] => none
  | digits => continued? 0 digits

/-- The whole number written by one or more digits after an optional sign. -/
def toInt? : List Char -> Option Int
  | '-' :: digits => (toNat? digits).map (fun n => -(Int.ofNat n))
  | '+' :: digits => (toNat? digits).map Int.ofNat
  | digits => (toNat? digits).map Int.ofNat

/-- A whole number as a 64-bit word, when it fits. -/
def toWord? (n : Int) : Option Int64 :=
  if Int64.minValue.toInt <= n && n <= Int64.maxValue.toInt then some (Int64.ofInt n) else none

/-- The 64-bit word written by digits after an optional sign. -/
def toInt64? (text : List Char) : Option Int64 := (toInt? text).bind toWord?

/-- The decimal text of a 64-bit word. -/
def wordText (word : Int64) : String := String.ofList (ofInt word.toInt)

/-- The decimal text of a natural number. -/
def natText (n : Nat) : String := String.ofList (ofNat n)

/-- The decimal text of a whole number. -/
def intText (n : Int) : String := String.ofList (ofInt n)

end Outreach.Digits
