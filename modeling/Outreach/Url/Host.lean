import Outreach.Text.Digits
import Outreach.Url.Percent

/-!
# Hosts

The host of an address is a name or a number of an internet protocol. Under schemes with rules
of their own a name is a domain: percent-decoded, mapped to ASCII, and a number if its last label
is one. Under other schemes a name is any text.

Domains may be written in every alphabet. What ASCII stands for them is up to the tables of a
library for internationalized names; readers of addresses take it as a parameter (`Host.Mapping`).
-/

namespace Outreach

/-- A host. -/
inductive Host where
  | name (text : List Char)
  /-- A number of 32 bits. -/
  | v4 (address : Nat)
  /-- Eight numbers of 16 bits. -/
  | v6 (pieces : List Nat)
deriving DecidableEq

namespace Host

/-- Why a text is no host. -/
inductive ReadFault where
  | empty
  /-- A domain holds a character that domains do not have. -/
  | domain
  | v4
  | v6
  /-- A name holds a character that names do not have. -/
  | character
deriving DecidableEq

/-- A number without leading zeros to the base sixteen. -/
def pieceText (piece : Nat) : List Char := Nat.toDigits 16 piece

/-- The text of a number of four bytes. -/
def v4Text (address : Nat) : List Char :=
  Digits.ofNat (address / 16777216 % 256) ++ '.' :: Digits.ofNat (address / 65536 % 256) ++
    '.' :: Digits.ofNat (address / 256 % 256) ++ '.' :: Digits.ofNat (address % 256)

/-- How many pieces at the front are zero. -/
def zeros (pieces : List Nat) : Nat := (pieces.takeWhile (· = 0)).length

/-- The start and the length of the first longest run of zeros. -/
def longestRun (pieces : List Nat) : Nat × Nat :=
  (List.range pieces.length).foldl
    (fun longest start =>
      let length := zeros (pieces.drop start)
      if longest.2 < length then (start, length) else longest)
    (0, 0)

/-- Pieces with colons between them. -/
def joined (pieces : List Nat) : List Char :=
  List.intercalate [':'] (pieces.map pieceText)

/-- The text of eight pieces: the first longest run of two zeros or more is left out. -/
def v6Text (pieces : List Nat) : List Char :=
  let (start, length) := longestRun pieces
  if length < 2 then joined pieces
  else joined (pieces.take start) ++ [':', ':'] ++ joined (pieces.drop (start + length))

/-- The text of a host. -/
def chars : Host -> List Char
  | .name text => text
  | .v4 address => v4Text address
  | .v6 pieces => '[' :: v6Text pieces ++ [']']

/-- The number that digits to a base write. -/
def number? (base : Nat) (value? : Char -> Option Nat) (digits : List Char) : Option Nat :=
  digits.foldlM (fun before c => (value? c).map (fun value => before * base + value)) 0

/-- The value of a digit to the base sixteen. -/
def hexValue? (c : Char) : Option Nat :=
  if '0' <= c && c <= '9' then some (c.toNat - 48)
  else if 'a' <= c && c <= 'f' then some (c.toNat - 87)
  else if 'A' <= c && c <= 'F' then some (c.toNat - 55)
  else none

/-- The value of a digit to the base eight. -/
def octalValue? (c : Char) : Option Nat := (Digits.value? c).filter (· < 8)

/-- The number that a label writes: to the base sixteen after `0x`, to the base eight after a
zero, else to the base ten. -/
def labelNumber? (label : List Char) : Option Nat :=
  match label with
  | [] => none
  | '0' :: 'x' :: digits | '0' :: 'X' :: digits => number? 16 hexValue? digits
  | '0' :: digit :: digits => number? 8 octalValue? (digit :: digits)
  | digits => number? 10 Digits.value? digits

/-- The labels of a domain; a point at the end does not count. -/
def labels (domain : List Char) : List (List Char) :=
  let all := domain.splitOn '.'
  if all.length != 1 && all.getLast? = some [] then all.dropLast else all

/-- Whether the last label of a domain is a number. -/
def endsInNumber (domain : List Char) : Bool :=
  match (labels domain).getLast? with
  | none => false
  | some label =>
    (!label.isEmpty && label.all Digits.isDigit) || (labelNumber? label).isSome

/-- The address that numbers write: bytes, and a last number that fills what is left. -/
def v4OfNumbers? (numbers : List Nat) : Option Nat :=
  match numbers.reverse with
  | [] => none
  | last :: before =>
    let places := 4 - before.length
    if places = 0 || Nat.pow 256 places <= last || before.any (255 < ·) then none
    else
      let front := before.foldr (fun byte number => number * 256 + byte) 0
      some (front * Nat.pow 256 places + last)

/-- The address of a domain whose last label is a number. -/
def readV4 (domain : List Char) : Except ReadFault Host :=
  match ((labels domain).mapM labelNumber?).bind v4OfNumbers? with
  | some address => .ok (.v4 address)
  | none => .error .v4

/-- A byte in decimal digits, without leading zeros. -/
def decimalByte? (digits : List Char) : Option Nat :=
  if 1 < digits.length && digits.head? = some '0' then none
  else (Digits.toNat? digits).filter (· < 256)

/-- The two pieces that four decimal bytes at the end write. -/
def trailingV4? (text : List Char) : Option (List Nat) :=
  match (text.splitOn '.').mapM decimalByte? with
  | some [a, b, c, d] => some [a * 256 + b, c * 256 + d]
  | _ => none

/-- Whether a character is a digit to the base sixteen. -/
def isHexDigit (c : Char) : Bool := (hexValue? c).isSome

/-- The pieces that follow, given those before and the place after a gap among them. A gap counts
as one zero until all pieces are known. -/
def pieces? (before : List Nat) (gap : Option Nat) (text : List Char) :
    Option (List Nat × Option Nat) :=
  match text with
  | [] => some (before, gap)
  | ':' :: rest =>
    if before.length = 8 || gap.isSome then none
    else pieces? (before ++ [0]) (some (before.length + 1)) rest
  | c :: rest =>
    if before.length = 8 then none
    else
      let digits := ((c :: rest).take 4).takeWhile isHexDigit
      let piece := (number? 16 hexValue? digits).getD 0
      match next : (c :: rest).drop digits.length with
      | [] => some (before ++ [piece], gap)
      | '.' :: _ =>
        if 6 < before.length then none
        else (trailingV4? (c :: rest)).map (fun last => (before ++ last, gap))
      | [':'] => none
      | ':' :: after =>
        have : after.length < rest.length + 1 := by
          have lengths := congrArg List.length next
          simp only [List.length_drop, List.length_cons] at lengths
          omega
        pieces? (before ++ [piece]) gap after
      | _ => none
termination_by text.length

/-- Eight pieces, the gap filled with zeros. -/
def filled? : List Nat × Option Nat -> Option (List Nat)
  | (pieces, none) => if pieces.length = 8 then some pieces else none
  | (pieces, some gap) =>
    some (pieces.take gap ++ List.replicate (8 - pieces.length) 0 ++ pieces.drop gap)

/-- The host that a text between brackets writes. -/
def readV6 (text : List Char) : Except ReadFault Host :=
  let pieces :=
    match text with
    | ':' :: ':' :: rest => pieces? [0] (some 1) rest
    | ':' :: _ => none
    | other => pieces? [] none other
  match pieces.bind filled? with
  | some pieces => .ok (.v6 pieces)
  | none => .error .v6

/-- The text between the bracket at the start of a host and the bracket at its end. -/
def bracketed? (text : List Char) : Option (Except ReadFault (List Char)) :=
  match text with
  | '[' :: rest => some (if rest.getLast? = some ']' then .ok rest.dropLast else .error .v6)
  | _ => none

/-- Whether a domain holds a character at no place. -/
def isForbiddenInDomain (c : Char) : Bool :=
  c.toNat <= 0x20 || c.toNat = 0x7F || "%#/:<>?@[\\]^|".toList.contains c

/-- Whether a name holds a character at no place. -/
def isForbiddenInName (c : Char) : Bool :=
  "\x00\t\n\r #/:<>?@[\\]^|".toList.contains c

/-- How internationalized domains are mapped: the domain of ASCII characters that bytes stand for,
or `none` if they are no domain. -/
abbrev Mapping := List UInt8 -> Option (List Char)

/-- Whether a label stands for one that is written in another alphabet. -/
def isEncodedLabel (label : List Char) : Bool :=
  "xn--".toList.isPrefixOf (label.map Char.toLower)

/-- The mapping of the domains that are ASCII to begin with: it is that to lower case. What other
domains stand for needs tables that are not here, so they are not mapped. -/
def asciiMapping : Mapping := fun bytes =>
  let domain := bytes.map (fun byte => (Char.ofNat byte.toNat).toLower)
  if bytes.any (fun byte => 0x80 <= byte.toNat) || (labels domain).any isEncodedLabel then none
  else some domain

/-- The host that a domain writes. -/
def readDomain (mapping : Mapping) (text : List Char) : Except ReadFault Host :=
  match mapping (Percent.decode (Utf8.encode text)) with
  | none => .error .domain
  | some domain =>
    if domain.any isForbiddenInDomain then .error .domain
    else if domain.isEmpty then .error .empty
    else if endsInNumber domain then readV4 domain
    else .ok (.name domain)

/-- The host that a text writes under a scheme with rules of its own. -/
def readSpecial (mapping : Mapping) (text : List Char) : Except ReadFault Host :=
  match bracketed? text with
  | some inner => inner.bind readV6
  | none => readDomain mapping text

/-- The host that a text writes under any other scheme. -/
def readOpaque (text : List Char) : Except ReadFault Host :=
  match bracketed? text with
  | some inner => inner.bind readV6
  | none =>
    if text.any isForbiddenInName then .error .character
    else .ok (.name (Percent.encode Percent.isControl text))

end Host

end Outreach
