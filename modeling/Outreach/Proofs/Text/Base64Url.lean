import Outreach.Proofs.Text.Utf8
import Outreach.Text.Base64Url

/-!
# Texts in the letters of addresses

Bytes are read from the letters that write them, whatever is left over at the end, and so are texts.
The letters are those of the alphabet without padding (`letters_ofText`), and each text has its own
(`toText?_ofText`).
-/

namespace Outreach

namespace Base64Url

/-- Whether a character is a letter of the alphabet. -/
def isLetter (c : Char) : Bool := c.isAlphanum || c = '-' || c = '_'

/-- The letter of six bits has their value. -/
theorem value?_letter {value : Nat} (small : value < 64) : value? (letter value) = some value := by
  have all : ∀ value < 64, value? (letter value) = some value := by decide
  exact all value small

theorem isLetter_letter {value : Nat} (small : value < 64) : isLetter (letter value) = true := by
  have all : ∀ value < 64, isLetter (letter value) = true := by decide
  exact all value small

/-- A number that splits into the bits of a byte is the byte. -/
theorem byte_eq {b : UInt8} {value : Nat} (same : value = b.toNat) : byte value = b := by
  rw [byte, same, UInt8.ofNat_toNat]

/-- Bytes are read from the letters that write them. -/
theorem decode?_encode (bytes : List UInt8) : decode? (encode bytes) = some bytes := by
  fun_induction encode bytes with
  | case1 => rfl
  | case2 a =>
    have := a.toNat_lt
    have unused : a.toNat % 4 * 16 % 16 = 0 := by omega
    have first : byte (a.toNat / 4 * 4 + a.toNat % 4 * 16 / 16) = a := byte_eq (by omega)
    simp only [decode?, value?_letter (show a.toNat / 4 < 64 by omega),
      value?_letter (show a.toNat % 4 * 16 < 64 by omega), bind, Option.bind_some, unused, first,
      if_true]
  | case3 a b =>
    have := a.toNat_lt
    have := b.toNat_lt
    have unused : b.toNat % 16 * 4 % 4 = 0 := by omega
    have first : byte (a.toNat / 4 * 4 + (a.toNat % 4 * 16 + b.toNat / 16) / 16) = a :=
      byte_eq (by omega)
    have second :
        byte ((a.toNat % 4 * 16 + b.toNat / 16) % 16 * 16 + b.toNat % 16 * 4 / 4) = b :=
      byte_eq (by omega)
    simp only [decode?, value?_letter (show a.toNat / 4 < 64 by omega),
      value?_letter (show a.toNat % 4 * 16 + b.toNat / 16 < 64 by omega),
      value?_letter (show b.toNat % 16 * 4 < 64 by omega), bind, Option.bind_some, unused, first,
      second, if_true]
  | case4 a b c rest ih =>
    have := a.toNat_lt
    have := b.toNat_lt
    have := c.toNat_lt
    have first : byte (a.toNat / 4 * 4 + (a.toNat % 4 * 16 + b.toNat / 16) / 16) = a :=
      byte_eq (by omega)
    have second : byte ((a.toNat % 4 * 16 + b.toNat / 16) % 16 * 16 +
        (b.toNat % 16 * 4 + c.toNat / 64) / 4) = b :=
      byte_eq (by omega)
    have third : byte ((b.toNat % 16 * 4 + c.toNat / 64) % 4 * 64 + c.toNat % 64) = c :=
      byte_eq (by omega)
    simp only [decode?, value?_letter (show a.toNat / 4 < 64 by omega),
      value?_letter (show a.toNat % 4 * 16 + b.toNat / 16 < 64 by omega),
      value?_letter (show b.toNat % 16 * 4 + c.toNat / 64 < 64 by omega),
      value?_letter (show c.toNat % 64 < 64 by omega), bind, Option.bind_some, ih, first, second,
      third]

/-- Bytes are written in letters of the alphabet. -/
theorem letters_encode (bytes : List UInt8) : ∀ c ∈ encode bytes, isLetter c = true := by
  fun_induction encode bytes with
  | case1 => simp
  | case2 a =>
    have := a.toNat_lt
    simp [isLetter_letter (show a.toNat / 4 < 64 by omega),
      isLetter_letter (show a.toNat % 4 * 16 < 64 by omega)]
  | case3 a b =>
    have := a.toNat_lt
    have := b.toNat_lt
    simp [isLetter_letter (show a.toNat / 4 < 64 by omega),
      isLetter_letter (show a.toNat % 4 * 16 + b.toNat / 16 < 64 by omega),
      isLetter_letter (show b.toNat % 16 * 4 < 64 by omega)]
  | case4 a b c rest ih =>
    have := a.toNat_lt
    have := b.toNat_lt
    have := c.toNat_lt
    simpa [isLetter_letter (show a.toNat / 4 < 64 by omega),
      isLetter_letter (show a.toNat % 4 * 16 + b.toNat / 16 < 64 by omega),
      isLetter_letter (show b.toNat % 16 * 4 + c.toNat / 64 < 64 by omega),
      isLetter_letter (show c.toNat % 64 < 64 by omega)] using ih

/-- Texts are read from the letters that write them. -/
theorem toText?_ofText (text : List Char) : toText? (ofText text) = some text := by
  rw [toText?, ofText, decode?_encode, Option.bind_some, Utf8.decode?_encode]

/-- Texts are written in letters of the alphabet. -/
theorem letters_ofText (text : List Char) : ∀ c ∈ ofText text, isLetter c = true :=
  letters_encode _

end Base64Url

end Outreach
