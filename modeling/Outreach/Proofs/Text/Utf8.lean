import Outreach.Text.Utf8

/-!
# Texts as bytes

The bytes of a text are read as the text, by the strict reading (`decode?_encode`) and by the lenient
one (`lenient_encode`).
-/

namespace Outreach.Utf8

/-- The bytes of a text are read as the text. -/
theorem decode?_encode (text : List Char) : decode? (encode text) = some text := by
  have bytes : (⟨(encode text).toArray⟩ : ByteArray) = text.utf8Encode := by
    ext1
    simp [encode, List.utf8Encode]
  have valid : text.utf8Encode.IsValidUTF8 := .intro text rfl
  have read : String.fromUTF8? text.utf8Encode = some (String.ofList text) := by
    rw [String.fromUTF8?, dif_pos valid]
    rfl
  rw [decode?, bytes, read, Option.map_some, String.toList_ofList]

theorem encode_append (front back : List Char) : encode (front ++ back) = encode front ++ encode back :=
  List.flatMap_append

/-- A character of ASCII is one byte. -/
theorem encode_cons {c : Char} (ascii : c.toNat < 128) (rest : List Char) :
    encode (c :: rest) = UInt8.ofNat c.toNat :: encode rest := by
  rw [encode, List.flatMap_cons, String.utf8EncodeChar]
  exact congrArg (· ++ _) (if_pos (Nat.le_of_lt_succ ascii))

section Lenient

/-- A character is read from a first byte and others that continue it. -/
theorem lenient_cons {first code : Nat} {bounds : List (Nat × Nat)} {others rest : List UInt8}
    (small : first < 256) (starts : following? first = some bounds)
    (continues : continued (leadingBits first) bounds (others ++ rest) = (some code, rest)) :
    lenient (UInt8.ofNat first :: (others ++ rest)) = Char.ofNat code :: lenient rest := by
  rw [lenient, UInt8.toNat_ofNat_of_lt' small, starts]
  simp only [continues, Option.map_some, Option.getD_some]

/-- The next six bits of a character are read from a byte within bounds. -/
theorem continued_cons {before bits least most : Nat} {bounds : List (Nat × Nat)}
    (within : least <= bits + 128 ∧ bits + 128 <= most) (small : bits < 64) (rest : List UInt8) :
    continued before ((least, most) :: bounds) (UInt8.ofNat (bits + 128) :: rest) =
      continued (before * 64 + bits) bounds rest := by
  have whole : (UInt8.ofNat (bits + 128)).toNat = bits + 128 :=
    UInt8.toNat_ofNat_of_lt' (show bits + 128 < 256 by omega)
  rw [continued, whole, if_pos (by simp [within])]
  congr 2
  omega

/-- The bytes of a character are read as the character. -/
theorem lenient_encodeChar (c : Char) (rest : List UInt8) :
    lenient (String.utf8EncodeChar c ++ rest) = c :: lenient rest := by
  have valid : c.toNat < 0xD800 ∨ 0xDFFF < c.toNat ∧ c.toNat < 0x110000 := c.valid
  have whole := Char.ofNat_toNat c
  have isCode : c.val.toNat = c.toNat := rfl
  simp only [String.utf8EncodeChar, isCode]
  generalize c.toNat = code at *
  subst whole
  clear isCode
  -- One to four bytes. The bounds of the second one shut out longer forms and surrogates.
  split
  · have starts : following? code = some [] := if_pos (by omega)
    have ends : continued (leadingBits code) [] ([] ++ rest) = (some code, rest) := by
      simp only [continued, leadingBits, if_pos (show code < 0x80 by omega), List.nil_append]
    exact lenient_cons (by omega) starts ends
  · split
    · have starts : following? (code / 64 % 32 + 192) = some [(0x80, 0xBF)] := by
        simp only [following?, Bool.and_eq_true, decide_eq_true_eq]
        grind
      refine lenient_cons (by omega) starts ?_
      simp only [List.cons_append, List.nil_append]
      rw [continued_cons (by omega) (by omega)]
      simp only [continued, leadingBits]
      grind
    · split
      · have starts : following? (code / 4096 % 16 + 224) = some
            [(if code < 0x1000 then 0xA0 else 0x80, if code / 4096 = 0xD then 0x9F else 0xBF),
              (0x80, 0xBF)] := by
          simp only [following?, Bool.and_eq_true, decide_eq_true_eq]
          grind
        refine lenient_cons (by omega) starts ?_
        simp only [List.cons_append, List.nil_append]
        rw [continued_cons (by grind) (by omega), continued_cons (by omega) (by omega)]
        simp only [continued, leadingBits]
        grind
      · have starts : following? (code / 262144 % 8 + 240) = some
            [(if code < 0x40000 then 0x90 else 0x80, if code / 262144 = 4 then 0x8F else 0xBF),
              (0x80, 0xBF), (0x80, 0xBF)] := by
          simp only [following?, Bool.and_eq_true, decide_eq_true_eq]
          grind
        refine lenient_cons (by omega) starts ?_
        simp only [List.cons_append, List.nil_append]
        rw [continued_cons (by grind) (by omega), continued_cons (by omega) (by omega),
          continued_cons (by omega) (by omega)]
        simp only [continued, leadingBits]
        grind

/-- The bytes of a text are read as the text. -/
theorem lenient_encode (text : List Char) : lenient (encode text) = text := by
  induction text with
  | nil => rw [encode, List.flatMap_nil, lenient]
  | cons c rest ih =>
    have split : encode (c :: rest) = String.utf8EncodeChar c ++ encode rest := List.flatMap_cons
    rw [split, lenient_encodeChar, ih]

end Lenient

end Outreach.Utf8
