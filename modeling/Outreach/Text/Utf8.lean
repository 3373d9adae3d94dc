/-!
# UTF-8

Texts as bytes. Bytes that are not UTF-8 are refused by the strict reading and replaced by the
lenient one.
-/

namespace Outreach.Utf8

/-- The bytes of a text. -/
def encode (text : List Char) : List UInt8 := text.flatMap String.utf8EncodeChar

/-- The text of some bytes; `none` if they are not UTF-8. -/
def decode? (bytes : List UInt8) : Option (List Char) :=
  (String.fromUTF8? ⟨bytes.toArray⟩).map String.toList

/-- What stands for bytes that are no character. -/
def replacement : Char := '\uFFFD'

/-- The bounds within which the bytes after the first byte of a character lie. `none` if no
character starts with that byte. -/
def following? (first : Nat) : Option (List (Nat × Nat)) :=
  if first < 0x80 then some []
  else if 0xC2 <= first && first <= 0xDF then some [(0x80, 0xBF)]
  else if first = 0xE0 then some [(0xA0, 0xBF), (0x80, 0xBF)]
  else if first = 0xED then some [(0x80, 0x9F), (0x80, 0xBF)]
  else if 0xE1 <= first && first <= 0xEF then some [(0x80, 0xBF), (0x80, 0xBF)]
  else if first = 0xF0 then some [(0x90, 0xBF), (0x80, 0xBF), (0x80, 0xBF)]
  else if 0xF1 <= first && first <= 0xF3 then some [(0x80, 0xBF), (0x80, 0xBF), (0x80, 0xBF)]
  else if first = 0xF4 then some [(0x80, 0x8F), (0x80, 0xBF), (0x80, 0xBF)]
  else none

/-- The bits of the first byte of a character that belong to its code. -/
def leadingBits (first : Nat) : Nat :=
  if first < 0x80 then first
  else if first < 0xE0 then first % 32
  else if first < 0xF0 then first % 16
  else first % 8

/-- The code of a character that is continued by bytes within bounds, and the bytes after it; no
code if a byte is missing or out of bounds. -/
def continued (code : Nat) : List (Nat × Nat) -> List UInt8 -> Option Nat × List UInt8
  | [], rest => (some code, rest)
  | _ :: _, [] => (none, [])
  | (least, most) :: bounds, byte :: rest =>
    if least <= byte.toNat && byte.toNat <= most then
      continued (code * 64 + byte.toNat % 64) bounds rest
    else (none, byte :: rest)

theorem continued_length_le (code : Nat) (bounds : List (Nat × Nat)) (bytes : List UInt8) :
    (continued code bounds bytes).2.length <= bytes.length := by
  fun_induction continued code bounds bytes with
  | case1 => simp
  | case2 => simp
  | case3 code least most bounds byte rest within ih =>
    simp only [List.length_cons]
    omega
  | case4 => simp

/-- The text of some bytes; what is no character is replaced. -/
def lenient : List UInt8 -> List Char
  | [] => []
  | byte :: rest =>
    match following? byte.toNat with
    | none => replacement :: lenient rest
    | some bounds =>
      let read := continued (leadingBits byte.toNat) bounds rest
      (read.1.map Char.ofNat).getD replacement :: lenient read.2
termination_by bytes => bytes.length
decreasing_by
  · simp
  · have := continued_length_le (leadingBits byte.toNat) bounds rest
    simp only [List.length_cons]
    omega

/-- Where bytes stop being UTF-8. -/
structure Fault where
  /-- The number of bytes before. -/
  offset : Nat
  /-- The number of bytes that are no character; none if bytes are missing at the end. -/
  length : Option Nat
deriving DecidableEq

/-- Where the bytes that follow `offset` others stop being UTF-8. -/
def faultAfter? (offset : Nat) : List UInt8 -> Option Fault
  | [] => none
  | byte :: rest =>
    match following? byte.toNat with
    | none => some ⟨offset, some 1⟩
    | some bounds =>
      let read := continued (leadingBits byte.toNat) bounds rest
      let length := 1 + (rest.length - read.2.length)
      if read.1.isSome then faultAfter? (offset + length) read.2
      else some ⟨offset, if read.2.isEmpty then none else some length⟩
termination_by bytes => bytes.length
decreasing_by
  have := continued_length_le (leadingBits byte.toNat) bounds rest
  simp only [List.length_cons]
  omega

end Outreach.Utf8
