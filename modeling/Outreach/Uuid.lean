import Outreach.Text.Digits

/-!
# Universally unique ids

Ids of 128 bits. They are written as 32 digits to the base sixteen in five groups with hyphens
between them, and read in that form, without the hyphens, between braces, or as a URN.
-/

namespace Outreach

/-- A universally unique id. -/
structure Uuid where
  /-- The bits of the id, the first written digit highest. -/
  bits : BitVec 128
deriving DecidableEq, Inhabited

namespace Uuid

/-- The id with a number as its bits. -/
def ofNat (n : Nat) : Uuid := ⟨BitVec.ofNat 128 n⟩

/-- The id with a number as its bits, except for those that mark it as drawn at random. -/
def drawn (n : Nat) : Uuid :=
  let marks : BitVec 128 := (4#128 <<< 76) ||| (2#128 <<< 62)
  let places : BitVec 128 := (15#128 <<< 76) ||| (3#128 <<< 62)
  ⟨(BitVec.ofNat 128 n &&& ~~~places) ||| marks⟩

/-- The sizes of the groups of digits. -/
def groupSizes : List Nat := [8, 4, 4, 4, 12]

/-- The lowest `count` digits of a number to the base sixteen, in front of `after`. -/
def lowDigits (n : Nat) (after : List Char) : Nat -> List Char
  | 0 => after
  | count + 1 => lowDigits (n / 16) (Nat.digitChar (n % 16) :: after) count

/-- The 32 digits of an id. -/
def digits (id : Uuid) : List Char := lowDigits id.bits.toNat [] 32

/-- The text of an id: five groups of digits with hyphens between them. -/
def chars (id : Uuid) : List Char :=
  let all := id.digits
  all.take 8 ++ '-' :: (all.drop 8).take 4 ++ '-' :: (all.drop 12).take 4 ++
    '-' :: (all.drop 16).take 4 ++ '-' :: all.drop 20

/-- The text of an id as a string. -/
def text (id : Uuid) : String := String.ofList id.chars

/-- Why a text is not read as an id. -/
inductive ReadFault where
  /-- A character other than a digit or a hyphen, at an offset in bytes. -/
  | character (found : Char) (offset : Nat)
  /-- A plain run of digits of a wrong length. -/
  | length (found : Nat)
  /-- A wrong number of groups. -/
  | groupCount (found : Nat)
  /-- A group of a wrong length. -/
  | groupLength (group found : Nat)
deriving DecidableEq

/-- The wording of a fault. -/
def ReadFault.message : ReadFault -> String
  | .character found offset =>
    "invalid character: found `" ++ String.singleton found ++ "` at " ++ Digits.natText offset
  | .length found => "invalid length: found " ++ Digits.natText found
  | .groupCount found => "invalid group count: expected 5, found " ++ Digits.natText found
  | .groupLength group found =>
    "invalid group length in group " ++ Digits.natText group ++ ": expected " ++
      Digits.natText (groupSizes.getD group 0) ++ ", found " ++ Digits.natText found

/-- The value of a digit to the base sixteen. -/
def digitValue? (c : Char) : Option Nat :=
  if '0' <= c && c <= '9' then some (c.toNat - 48)
  else if 'a' <= c && c <= 'f' then some (c.toNat - 87)
  else if 'A' <= c && c <= 'F' then some (c.toNat - 55)
  else none

/-- The number that digits to the base sixteen continue. -/
def continued? (before : Nat) : List Char -> Option Nat
  | [] => some before
  | c :: rest =>
    match digitValue? c with
    | some value => continued? (before * 16 + value) rest
    | none => none

/-- The id that exactly 32 digits write. -/
def ofDigits? (digits : List Char) : Option Uuid :=
  if digits.length = 32 then (continued? 0 digits).map ofNat else none

/-- The id that five groups of digits with hyphens between them write. -/
def ofGroups? (text : List Char) : Option Uuid :=
  if text.length = 36 && text[8]? = some '-' && text[13]? = some '-' && text[18]? = some '-' &&
      text[23]? = some '-' then
    ofDigits? (text.take 8 ++ (text.drop 9).take 4 ++ (text.drop 14).take 4 ++
      (text.drop 19).take 4 ++ text.drop 24)
  else none

/-- What marks an id as a URN. -/
def urnMark : List Char := "urn:uuid:".toList

/-- A text without the braces or the mark around its digits, the number of characters taken
from its front, and whether nothing was taken. -/
def core (text : List Char) : List Char × Nat × Bool :=
  match text with
  | '\x7b' :: rest =>
    if rest.getLast? = some '\x7d' then (rest.dropLast, 1, false) else (text, 0, true)
  | _ => if urnMark.isPrefixOf text then (text.drop 9, 9, false) else (text, 0, true)

/-- The first character that is neither a digit nor a hyphen, with its offset in bytes. -/
def stranger? (offset : Nat) : List Char -> Option (Char × Nat)
  | [] => none
  | c :: rest =>
    if c = '-' || (digitValue? c).isSome then stranger? (offset + c.utf8Size) rest
    else some (c, offset)

/-- What is wrong with a text that writes no id. When only the last group is left to blame, all that
follows the place of its first digit in a bare id counts as the group. -/
def faultOf (text : List Char) : ReadFault :=
  let (inner, taken, plain) := core text
  match stranger? taken inner with
  | some (c, offset) => .character c offset
  | none =>
    let groups := inner.splitOn '-'
    if groups.length = 1 && plain then .length inner.length
    else if groups.length != 5 then .groupCount groups.length
    else
      let starts := [0, 9, 14, 19, 24]
      let ends := groups.foldl (fun ends group =>
        ends ++ [ends.getLast?.elim group.length (· + 1 + group.length)]) []
      let wrong := (List.range 4).find? (fun group =>
        ends.getD group 0 != starts.getD (group + 1) 0 - 1)
      match wrong with
      | some group => .groupLength group (ends.getD group 0 - starts.getD group 0)
      | none => .groupLength 4 (text.length - 24)

/-- The id that a text writes. -/
def read (text : String) : Except ReadFault Uuid :=
  let characters := text.toList
  let (inner, _, plain) := core characters
  match (if plain then ofDigits? characters else none).or (ofGroups? inner) with
  | some id => .ok id
  | none => .error (faultOf characters)

end Uuid

end Outreach
