import Outreach.Text.PrintableTable

/-!
# Quoted texts in messages

A text inside a message stands between double quotes. Quotes, backslashes and characters that
do not show as themselves are written as escapes.
-/

namespace Outreach.Text

/-- The digits of a number to the base sixteen, lower case and without leading zeros. -/
def hexDigits (n : Nat) : List Char := Nat.toDigits 16 n

/-- What stands for a character inside a quoted text. -/
def quotedChar (c : Char) : List Char :=
  if c = '\x00' then ['\\', '0']
  else if c = '\t' then ['\\', 't']
  else if c = '\r' then ['\\', 'r']
  else if c = '\n' then ['\\', 'n']
  else if c = '"' || c = '\\' then ['\\', c]
  else if c.toNat < 0x7F && 0x20 <= c.toNat then [c]
  else if CodeRange.anyHolds graphemeExtendRanges c || CodeRange.anyHolds unprintableRanges c then
    ['\\', 'u', '\x7b'] ++ hexDigits c.toNat ++ ['\x7d']
  else [c]

/-- A text between double quotes. -/
def quoted (text : String) : String :=
  String.ofList ('"' :: text.toList.flatMap quotedChar ++ ['"'])

end Outreach.Text
