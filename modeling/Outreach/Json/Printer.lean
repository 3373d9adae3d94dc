import Outreach.Json.Basic
import Outreach.Decimal.Shortest

/-!
# Written JSON

The compact text of a value has no white space outside its strings. The indented text puts
every item and member on a line of its own, two blanks deeper than what holds it.
-/

namespace Outreach.Json

/-- What stands for a character inside a written string: quotes, backslashes and control
characters are escaped, all else stands for itself. -/
def escapedChar (c : Char) : List Char :=
  if c = '"' then ['\\', '"']
  else if c = '\\' then ['\\', '\\']
  else if c = '\n' then ['\\', 'n']
  else if c = '\r' then ['\\', 'r']
  else if c = '\t' then ['\\', 't']
  else if c = '\x08' then ['\\', 'b']
  else if c = '\x0c' then ['\\', 'f']
  else if c.toNat < 0x20 then
    ['\\', 'u', '0', '0', Nat.digitChar (c.toNat / 16), Nat.digitChar (c.toNat % 16)]
  else [c]

/-- A string between quotes. -/
def writtenString (text : String) : List Char :=
  '"' :: text.toList.flatMap escapedChar ++ ['"']

/-- The compact text of a value. -/
def compactChars : Json -> List Char
  | .null => ['n', 'u', 'l', 'l']
  | .bool true => ['t', 'r', 'u', 'e']
  | .bool false => ['f', 'a', 'l', 's', 'e']
  | .integer value => Digits.ofInt value
  | .real value => value.text
  | .string value => writtenString value
  | .array items => '[' :: compactItems items ++ [']']
  | .object members => '\x7b' :: compactMembers members ++ ['\x7d']
where
  /-- The items of an array with commas between them. -/
  compactItems : List Json -> List Char
    | [] => []
    | [item] => compactChars item
    | item :: rest => compactChars item ++ ',' :: compactItems rest
  /-- The members of an object with commas between them. -/
  compactMembers : List (String × Json) -> List Char
    | [] => []
    | [(name, value)] => writtenString name ++ ':' :: compactChars value
    | (name, value) :: rest =>
      writtenString name ++ ':' :: compactChars value ++ ',' :: compactMembers rest

/-- The compact text of a value as a string. -/
def compact (json : Json) : String := String.ofList json.compactChars

/-- The blanks in front of a line. -/
def indentation (depth : Nat) : List Char := List.replicate (2 * depth) ' '

/-- The indented text of a value that stands at a depth. -/
def indentedChars (depth : Nat) : Json -> List Char
  | .array [] => ['[', ']']
  | .array items =>
    '[' :: '\n' :: indentedItems (depth + 1) items ++ '\n' :: indentation depth ++ [']']
  | .object [] => ['\x7b', '\x7d']
  | .object members =>
    '\x7b' :: '\n' :: indentedMembers (depth + 1) members ++ '\n' :: indentation depth ++ ['\x7d']
  | other => compactChars other
where
  /-- The items of an array, one a line. -/
  indentedItems (depth : Nat) : List Json -> List Char
    | [] => []
    | [item] => indentation depth ++ indentedChars depth item
    | item :: rest =>
      indentation depth ++ indentedChars depth item ++ ',' :: '\n' :: indentedItems depth rest
  /-- The members of an object, one a line. -/
  indentedMembers (depth : Nat) : List (String × Json) -> List Char
    | [] => []
    | [(name, value)] =>
      indentation depth ++ writtenString name ++ ':' :: ' ' :: indentedChars depth value
    | (name, value) :: rest =>
      indentation depth ++ writtenString name ++ ':' :: ' ' :: indentedChars depth value ++
        ',' :: '\n' :: indentedMembers depth rest

/-- The indented text of a value as a string. -/
def indented (json : Json) : String := String.ofList (json.indentedChars 0)

end Outreach.Json
