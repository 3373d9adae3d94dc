import Outreach.Proofs.Text.Utf8
import Outreach.Url.Query

/-!
# Pairs in queries

A text is read from its form-encoded form, in which nothing separates pairs, or names from values. So
a pair that is appended to an address is read from its query, after the pairs that were there before
(`pairs_appendPairs`), and nothing but the query has changed (`appendPairs_eq`).
-/

namespace Outreach

namespace Percent

/-- A byte that is no percent sign stands for itself. -/
theorem decode_cons {byte : UInt8} (plain : byte ≠ 0x25) (rest : List UInt8) :
    decode (byte :: rest) = byte :: decode rest := by
  rw [decode]
  exact fun _ _ _ isPercent _ => plain isPercent

/-- The digit of four bits. -/
def digit (bits : Nat) : Char := (Nat.digitChar bits).toUpper

theorem digitValue?_digit {bits : Nat} (small : bits < 16) :
    digitValue? (UInt8.ofNat (digit bits).toNat) = some bits := by
  have all : ∀ bits < 16, digitValue? (UInt8.ofNat (digit bits).toNat) = some bits := by decide
  exact all bits small

/-- A digit is a digit or a letter of ASCII. -/
theorem isAlphanum_digit {bits : Nat} (small : bits < 16) :
    (digit bits).isAlphanum = true ∧ (digit bits).toNat < 128 := by
  have all : ∀ bits < 16, (digit bits).isAlphanum = true ∧ (digit bits).toNat < 128 := by decide
  exact all bits small

/-- An encoded byte is a percent sign and digits. -/
theorem mem_encodedByte {byte : UInt8} {c : Char} (member : c ∈ encodedByte byte) :
    c.isAlphanum = true ∨ c = '%' := by
  have small := byte.toNat_lt
  have listed : c ∈ ['%', digit (byte.toNat / 16), digit (byte.toNat % 16)] := member
  simp only [List.mem_cons, List.not_mem_nil, or_false] at listed
  rcases listed with isPercent | rfl | rfl
  · exact .inr isPercent
  · exact .inl (isAlphanum_digit (by omega)).1
  · exact .inl (isAlphanum_digit (by omega)).1

/-- A byte is read from its encoded form. -/
theorem decode_encodedByte (byte : UInt8) (rest : List UInt8) :
    decode (Utf8.encode (encodedByte byte) ++ rest) = byte :: decode rest := by
  have small := byte.toNat_lt
  have high : byte.toNat / 16 < 16 := by omega
  have low : byte.toNat % 16 < 16 := by omega
  have bytes : Utf8.encode (encodedByte byte) =
      [0x25, .ofNat (digit (byte.toNat / 16)).toNat, .ofNat (digit (byte.toNat % 16)).toNat] := by
    change Utf8.encode ['%', digit (byte.toNat / 16), digit (byte.toNat % 16)] = _
    rw [Utf8.encode_cons (by decide), Utf8.encode_cons (isAlphanum_digit high).2,
      Utf8.encode_cons (isAlphanum_digit low).2]
    rfl
  have whole : byte.toNat / 16 * 16 + byte.toNat % 16 = byte.toNat := by omega
  have read : byte? (.ofNat (digit (byte.toNat / 16)).toNat)
      (.ofNat (digit (byte.toNat % 16)).toNat) = some byte := by
    simp only [byte?, digitValue?_digit high, digitValue?_digit low, bind, Option.bind_some, pure,
      whole, UInt8.ofNat_toNat]
  rw [bytes, List.cons_append, List.cons_append, List.cons_append, List.nil_append]
  simp only [decode, read]

end Percent

namespace Url

section Forms

/-- What a character of a form-encoded text stands for before its bytes are read. -/
def spaced (c : Char) : Char := if c = '+' then ' ' else c

/-- A byte is read from its form-encoded form. -/
theorem decode_formByte (byte : UInt8) (rest : List UInt8) :
    Percent.decode (Utf8.encode ((formByte byte).map spaced) ++ rest) =
      byte :: Percent.decode rest := by
  unfold formByte
  split
  · rename_i plain
    have small : byte.toNat < 128 := by
      simp only [isPlainByte, Bool.and_eq_true, decide_eq_true_eq] at plain
      exact plain.1
    have same : (Char.ofNat byte.toNat).toNat = byte.toNat := by
      rw [Char.ofNat, dif_pos (.inl (by omega))]
      rfl
    have unspaced : spaced (Char.ofNat byte.toNat) = Char.ofNat byte.toNat := by
      refine if_neg (fun isPlus => ?_)
      simp [isPlainByte, isPlus] at plain
    have unmarked : byte ≠ 0x25 := by
      rintro rfl
      exact absurd plain (by decide)
    rw [List.map_singleton, unspaced, Utf8.encode_cons (by omega), same, UInt8.ofNat_toNat]
    exact Percent.decode_cons unmarked rest
  · split
    · rename_i isBlank
      subst isBlank
      exact Percent.decode_cons (by decide) rest
    · have unspaced : (Percent.encodedByte byte).map spaced = Percent.encodedByte byte := by
        refine (List.map_congr_left (fun c member => if_neg ?_)).trans (List.map_id _)
        rintro rfl
        rcases Percent.mem_encodedByte member with none | none <;> exact absurd none (by decide)
      rw [unspaced, Percent.decode_encodedByte]

/-- A text is read from its form-encoded form. -/
theorem formDecode_formEncode (text : List Char) : formDecode (formEncode text) = text := by
  have read (bytes : List UInt8) :
      Percent.decode (Utf8.encode ((bytes.flatMap formByte).map spaced)) = bytes := by
    induction bytes with
    | nil => rfl
    | cons byte rest ih =>
      rw [List.flatMap_cons, List.map_append, Utf8.encode_append, decode_formByte, ih]
  change Utf8.lenient (Percent.decode (Utf8.encode ((formEncode text).map spaced))) = text
  rw [formEncode, read, Utf8.lenient_encode]

/-- A form-encoded text is letters, digits and a few marks, none of which separates anything in an
address. -/
theorem mem_formEncode {text : List Char} {c : Char} (member : c ∈ formEncode text) :
    c ≠ '&' ∧ c ≠ '=' ∧ c ≠ '#' := by
  have letters : c.isAlphanum = true ∨ c ∈ ['*', '-', '.', '_', '+', '%'] := by
    obtain ⟨byte, -, inByte⟩ := List.mem_flatMap.mp member
    unfold formByte at inByte
    split at inByte
    · rename_i plain
      cases List.mem_singleton.mp inByte
      simp only [isPlainByte, Bool.and_eq_true, Bool.or_eq_true, List.contains_iff_mem] at plain
      exact plain.2.imp_right (fun mark => List.mem_append_left ['+', '%'] mark)
    · split at inByte
      · cases List.mem_singleton.mp inByte
        exact .inr (by decide)
      · refine (Percent.mem_encodedByte inByte).imp_right ?_
        rintro rfl
        decide
  refine ⟨?_, ?_, ?_⟩ <;>
  · rintro rfl
    exact absurd letters (by decide)

end Forms

section Pairs

/-- Nothing in the form of a pair separates it from others, or starts a fragment. -/
theorem mem_formPair {name value : List Char} {c : Char} (member : c ∈ formPair name value) :
    c ≠ '&' ∧ c ≠ '#' := by
  rcases List.mem_append.mp member with inName | inValue
  · exact ⟨(mem_formEncode inName).1, (mem_formEncode inName).2.2⟩
  · rcases List.mem_cons.mp inValue with rfl | inValue
    · decide
    · exact ⟨(mem_formEncode inValue).1, (mem_formEncode inValue).2.2⟩

/-- A pair is read from its form. -/
theorem pairsOf_formPair (name value : List Char) :
    pairsOf (formPair name value) = [(name, value)] := by
  have inName : ∀ c ∈ formEncode name, decide (c ≠ '=') = true :=
    fun c member => decide_eq_true (mem_formEncode member).2.1
  have joined : ∀ c ∈ formPair name value, (c == '&') = false :=
    fun c member => beq_false_of_ne (mem_formPair member).1
  have one : (formPair name value).splitOn '&' = [formPair name value] :=
    List.splitOnP_eq_singleton joined
  have front : (formPair name value).takeWhile (· ≠ '=') = formEncode name := by
    rw [formPair, List.takeWhile_append_of_pos inName]
    simp
  have back : (formPair name value).dropWhile (· ≠ '=') = '=' :: formEncode value := by
    rw [formPair, List.dropWhile_append_of_pos inName]
    simp
  have kept : [formPair name value].filter (· ≠ []) = [formPair name value] := by simp [formPair]
  rw [pairsOf, one, kept, List.map_singleton, front, back, List.drop_one, List.tail_cons,
    formDecode_formEncode, formDecode_formEncode]

/-- The pairs of two queries that an ampersand joins are those of both. -/
theorem pairsOf_append (front back : List Char) :
    pairsOf (front ++ '&' :: back) = pairsOf front ++ pairsOf back := by
  rw [pairsOf, List.splitOn, List.splitOnP_append_cons _ _ (by decide), List.filter_append,
    List.map_append]
  rfl

/-- A pair is appended after the pairs that are there. -/
theorem pairs_appendPair (url : Url) (name value : List Char) :
    (url.appendPair name value).pairs = url.pairs ++ [(name, value)] := by
  have alone := pairsOf_formPair name value
  unfold appendPair pairs
  split
  · rename_i none
    simp [none, alone]
  · rename_i empty
    have none : pairsOf [] = [] := rfl
    simp [empty, alone, none]
  · rename_i query _ some
    simp only [some, Option.map_some, Option.getD_some, pairsOf_append, alone]

/-- Only the query is touched. -/
theorem appendPair_eq (url : Url) (name value : List Char) :
    url.appendPair name value = { url with query := (url.appendPair name value).query } := by
  unfold appendPair
  split <;> rfl

/-- The address with more pairs at the end of its query. -/
def appendPairs (url : Url) (added : List (List Char × List Char)) : Url :=
  added.foldl (fun url pair => url.appendPair pair.1 pair.2) url

/-- Pairs are appended after the pairs that are there. -/
theorem pairs_appendPairs (url : Url) (added : List (List Char × List Char)) :
    (url.appendPairs added).pairs = url.pairs ++ added := by
  induction added generalizing url with
  | nil => rw [appendPairs, List.foldl_nil, List.append_nil]
  | cons pair rest ih =>
    rw [appendPairs, List.foldl_cons]
    exact (ih _).trans (by rw [pairs_appendPair, List.append_assoc, List.singleton_append])

theorem appendPairs_eq (url : Url) (added : List (List Char × List Char)) :
    url.appendPairs added = { url with query := (url.appendPairs added).query } := by
  induction added generalizing url with
  | nil => rfl
  | cons pair rest ih =>
    have same := appendPair_eq url pair.1 pair.2
    refine (ih (url.appendPair pair.1 pair.2)).trans ?_
    rw [congrArg Url.scheme same, congrArg Url.authority same, congrArg Url.path same,
      congrArg Url.fragment same]
    rfl

end Pairs

end Url

end Outreach
