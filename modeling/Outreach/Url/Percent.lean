import Outreach.Text.Utf8

/-!
# Percent-encoding

A byte as a percent sign and two digits to the base sixteen. Which characters are encoded
depends on the part of an address they stand in; all characters outside ASCII are.
-/

namespace Outreach.Percent

/-- The digits of a byte after a percent sign. -/
def digits (byte : UInt8) : List Char :=
  [(Nat.digitChar (byte.toNat / 16)).toUpper, (Nat.digitChar (byte.toNat % 16)).toUpper]

/-- An encoded byte. -/
def encodedByte (byte : UInt8) : List Char := '%' :: digits byte

/-- A text in which the characters of a class, and all outside ASCII, are encoded. -/
def encode (encoded : Char -> Bool) (text : List Char) : List Char :=
  text.flatMap (fun c =>
    if encoded c || 0x80 <= c.toNat then (String.utf8EncodeChar c).flatMap encodedByte else [c])

/-- Control characters. -/
def isControl (c : Char) : Bool := c.toNat < 0x20 || c.toNat = 0x7F

/-- What is encoded in a fragment. -/
def inFragment (c : Char) : Bool := isControl c || [' ', '"', '<', '>', '\x60'].contains c

/-- What is encoded in a path. -/
def inPath (c : Char) : Bool := inFragment c || ['#', '?', '\x7b', '\x7d'].contains c

/-- What is encoded in the names and passwords of users. -/
def inUserinfo (c : Char) : Bool :=
  inPath c || ['/', ':', ';', '=', '@', '[', '\\', ']', '^', '|'].contains c

/-- What is encoded in the query of an address without a scheme of its own rules. -/
def inQuery (c : Char) : Bool := isControl c || [' ', '"', '#', '<', '>'].contains c

/-- What is encoded in the query of an address whose scheme has rules of its own. -/
def inSpecialQuery (c : Char) : Bool := inQuery c || c = '\x27'

/-- The value of a byte that is a digit to the base sixteen. -/
def digitValue? (byte : UInt8) : Option Nat :=
  let n := byte.toNat
  if 48 <= n && n <= 57 then some (n - 48)
  else if 97 <= n && n <= 102 then some (n - 87)
  else if 65 <= n && n <= 70 then some (n - 55)
  else none

/-- The byte that two digits write. -/
def byte? (high low : UInt8) : Option UInt8 := do
  return UInt8.ofNat ((<- digitValue? high) * 16 + (<- digitValue? low))

/-- The bytes of an encoded text. A percent sign without two digits stands for itself. -/
def decode : List UInt8 -> List UInt8
  | 0x25 :: high :: low :: rest =>
    match byte? high low with
    | some byte => byte :: decode rest
    | none => 0x25 :: decode (high :: low :: rest)
  | byte :: rest => byte :: decode rest
  | [] => []

end Outreach.Percent
