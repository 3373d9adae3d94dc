import Outreach.Text.Utf8

/-!
# Base64 for addresses

Bytes as letters, digits, hyphens and underscores: three bytes are four characters, and what is
left over at the end is not padded. Reading accepts exactly what writing produces.
-/

namespace Outreach.Base64Url

/-- The character of six bits. -/
def letter (value : Nat) : Char :=
  if value < 26 then Char.ofNat (65 + value)
  else if value < 52 then Char.ofNat (71 + value)
  else if value < 62 then Char.ofNat (value - 4)
  else if value = 62 then '-'
  else '_'

/-- The six bits of a character. -/
def value? (c : Char) : Option Nat :=
  if 'A' <= c && c <= 'Z' then some (c.toNat - 65)
  else if 'a' <= c && c <= 'z' then some (c.toNat - 71)
  else if '0' <= c && c <= '9' then some (c.toNat + 4)
  else if c = '-' then some 62
  else if c = '_' then some 63
  else none

/-- The characters of some bytes. -/
def encode : List UInt8 -> List Char
  | [] => []
  | [a] => [letter (a.toNat / 4), letter (a.toNat % 4 * 16)]
  | [a, b] =>
    [letter (a.toNat / 4), letter (a.toNat % 4 * 16 + b.toNat / 16), letter (b.toNat % 16 * 4)]
  | a :: b :: c :: rest =>
    letter (a.toNat / 4) :: letter (a.toNat % 4 * 16 + b.toNat / 16) ::
      letter (b.toNat % 16 * 4 + c.toNat / 64) :: letter (c.toNat % 64) :: encode rest

/-- The byte of a number below 256. -/
def byte (value : Nat) : UInt8 := UInt8.ofNat value

/-- The bytes that characters write. Bits that are left over at the end must be zero. -/
def decode? : List Char -> Option (List UInt8)
  | [] => some []
  | [_] => none
  | [a, b] => do
    let a <- value? a
    let b <- value? b
    if b % 16 = 0 then some [byte (a * 4 + b / 16)] else none
  | [a, b, c] => do
    let a <- value? a
    let b <- value? b
    let c <- value? c
    if c % 4 = 0 then some [byte (a * 4 + b / 16), byte (b % 16 * 16 + c / 4)] else none
  | a :: b :: c :: d :: rest => do
    let a <- value? a
    let b <- value? b
    let c <- value? c
    let d <- value? d
    let others <- decode? rest
    some (byte (a * 4 + b / 16) :: byte (b % 16 * 16 + c / 4) :: byte (c % 4 * 64 + d) :: others)

/-- The characters of a text. -/
def ofText (text : List Char) : List Char := encode (Utf8.encode text)

/-- The text that characters write. -/
def toText? (letters : List Char) : Option (List Char) := (decode? letters).bind Utf8.decode?

end Outreach.Base64Url
