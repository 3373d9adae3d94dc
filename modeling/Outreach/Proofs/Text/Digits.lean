import Mathlib.Data.Nat.Digits.Defs
import Mathlib.Tactic.Ring
import Outreach.Text.Digits

/-!
# Written numbers

Decimal digits are read back as the number that they write, also with zeros in front of them, and
what is read as a number is a numeral, perhaps with a sign.
-/

namespace Outreach.Digits

/-- The digit of a value has the value. -/
theorem value?_digit {value : Nat} (small : value < 10) : value? (digit value) = some value := by
  have all : ∀ value < 10, value? (digit value) = some value := by decide
  exact all value small

theorem isDigit_digit {value : Nat} (small : value < 10) : isDigit (digit value) = true := by
  have all : ∀ value < 10, isDigit (digit value) = true := by decide
  exact all value small

/-- Digits are read from left to right. -/
theorem continued?_append (before : Nat) (left right : List Char) :
    continued? before (left ++ right) = (continued? before left).bind (continued? · right) := by
  induction left generalizing before with
  | nil => rfl
  | cons c rest ih =>
    rw [List.cons_append, continued?, continued?]
    cases value? c with
    | none => rfl
    | some value => exact ih (before * 10 + value)

/-- The digits of a number continue the one before them by their own number. -/
theorem continued?_ofNat (before n : Nat) :
    continued? before (ofNat n) = some (before * 10 ^ (ofNat n).length + n) := by
  induction n using Nat.strongRecOn with
  | ind n ih =>
    rw [ofNat]
    split
    · rename_i small
      simp [continued?, value?_digit small]
    · rename_i large
      have last : n % 10 < 10 := Nat.mod_lt n (by decide)
      rw [continued?_append, ih (n / 10) (by omega)]
      simp only [Option.bind_some, continued?, value?_digit last, List.length_append,
        List.length_singleton, Nat.pow_succ]
      congr 1
      rw [Nat.add_mul, Nat.mul_assoc]
      omega

/-- Every character that writes a number is a digit. -/
theorem isDigit_of_mem_ofNat (n : Nat) : ∀ c ∈ ofNat n, isDigit c = true := by
  induction n using Nat.strongRecOn with
  | ind n ih =>
    intro c member
    rw [ofNat] at member
    split at member
    · rename_i small
      rw [List.mem_singleton.mp member]
      exact isDigit_digit small
    · rename_i large
      rcases List.mem_append.mp member with earlier | last
      · exact ih (n / 10) (by omega) c earlier
      · rw [List.mem_singleton.mp last]
        exact isDigit_digit (Nat.mod_lt n (by decide))

/-- A number below a power of ten has no more digits than the power, but for a single zero. -/
theorem length_ofNat_le {width n : Nat} (positive : 0 < width) (fits : n < 10 ^ width) :
    (ofNat n).length ≤ width := by
  induction width generalizing n with
  | zero => omega
  | succ width ih =>
    rw [ofNat]
    split
    · simp
    · rename_i large
      have wide : 0 < width := by
        rcases Nat.eq_zero_or_pos width with rfl | wide
        · omega
        · exact wide
      have shorter : n / 10 < 10 ^ width := by
        rw [Nat.pow_succ] at fits
        omega
      have bound := ih wide shorter
      rw [List.length_append, List.length_singleton]
      omega

theorem ofNat_ne_nil (n : Nat) : ofNat n ≠ [] := by
  rw [ofNat]
  split <;> simp

/-- A padded number that fits is as wide as asked for. -/
theorem length_padded {width n : Nat} (positive : 0 < width) (fits : n < 10 ^ width) :
    (padded width n).length = width := by
  have bound := length_ofNat_le positive fits
  simp only [padded, List.length_append, List.length_replicate]
  omega

/-- Zeros in front of digits do not count. -/
theorem continued?_zeros (count : Nat) (digits : List Char) :
    continued? 0 (List.replicate count '0' ++ digits) = continued? 0 digits := by
  induction count with
  | zero => rfl
  | succ count ih => exact ih

theorem isDigit_of_mem_padded (width n : Nat) : ∀ c ∈ padded width n, isDigit c = true := by
  intro c member
  rcases List.mem_append.mp member with zeros | digits
  · rw [List.eq_of_mem_replicate zeros]
    decide
  · exact isDigit_of_mem_ofNat n c digits

theorem padded_ne_nil (width n : Nat) : padded width n ≠ [] := fun none =>
  ofNat_ne_nil n (List.append_eq_nil_iff.mp none).2

/-- A padded number is read back. -/
theorem toNat?_padded (width n : Nat) : toNat? (padded width n) = some n := by
  have read : continued? 0 (padded width n) = some n := by
    rw [padded, continued?_zeros, continued?_ofNat, Nat.zero_mul, Nat.zero_add]
  cases written : padded width n with
  | nil => exact absurd written (padded_ne_nil width n)
  | cons c rest => rw [toNat?, ← written, read]; exact List.cons_ne_nil c rest

theorem toNat?_ofNat (n : Nat) : toNat? (ofNat n) = some n := by
  have bare : padded 0 n = ofNat n := by
    rw [padded, Nat.zero_sub, List.replicate_zero, List.nil_append]
  rw [← bare, toNat?_padded]

/-- A numeral: decimal digits, at least one. -/
def Numeral (text : List Char) : Prop := text ≠ [] ∧ ∀ c ∈ text, isDigit c = true

/-- The number that decimal digits write. -/
def number (digits : List Char) : Nat :=
  Nat.ofDigits 10 (digits.reverse.map (fun c => c.toNat - 48))

/-- A numeral writes its number. -/
inductive Plain : List Char -> Int -> Prop where
  | numeral {digits : List Char} (isNumeral : Numeral digits) : Plain digits (number digits)

/-- A numeral with a sign or without writes its number or the opposite. -/
inductive Signed : List Char -> Int -> Prop where
  | numeral {digits : List Char} (isNumeral : Numeral digits) : Signed digits (number digits)
  | plus {digits : List Char} (isNumeral : Numeral digits) :
    Signed ('+' :: digits) (number digits)
  | minus {digits : List Char} (isNumeral : Numeral digits) :
    Signed ('-' :: digits) (-(number digits))

theorem number_cons (c : Char) (digits : List Char) :
    number (c :: digits) = (c.toNat - 48) * 10 ^ digits.length + number digits := by
  simp only [number, List.reverse_cons, List.map_append, List.map_singleton, Nat.ofDigits_append,
    Nat.ofDigits_singleton, List.length_map, List.length_reverse]
  ring

theorem continued?_eq_some_iff {before n : Nat} {digits : List Char} :
    continued? before digits = some n ↔
      (∀ c ∈ digits, isDigit c = true) ∧ n = before * 10 ^ digits.length + number digits := by
  induction digits generalizing before with
  | nil =>
    simp only [continued?, Option.some.injEq, number, List.reverse_nil, List.map_nil,
      Nat.ofDigits_nil, List.length_nil, pow_zero, mul_one, add_zero]
    exact ⟨fun same => ⟨fun c none => absurd none List.not_mem_nil, same.symm⟩,
      fun same => same.2.symm⟩
  | cons c rest ih =>
    have value : value? c = if isDigit c then some (c.toNat - 48) else none := rfl
    rw [continued?, value, List.forall_mem_cons, number_cons]
    by_cases digit : isDigit c = true
    · have sum : (before * 10 + (c.toNat - 48)) * 10 ^ rest.length + number rest =
          before * 10 ^ (c :: rest).length + ((c.toNat - 48) * 10 ^ rest.length + number rest) := by
        rw [List.length_cons, pow_succ]
        ring
      rw [if_pos digit]
      simp only [ih, sum, digit, true_and]
    · rw [if_neg digit]
      exact ⟨nofun, fun digits => absurd digits.1.1 digit⟩

theorem toNat?_eq_some_iff {text : List Char} {n : Nat} :
    toNat? text = some n ↔ Numeral text ∧ n = number text := by
  cases text with
  | nil => exact ⟨nofun, fun numeral => absurd rfl numeral.1.1⟩
  | cons c rest =>
    rw [toNat?]
    · rw [continued?_eq_some_iff, Nat.zero_mul, Nat.zero_add]
      exact ⟨fun read => ⟨⟨List.cons_ne_nil c rest, read.1⟩, read.2⟩,
        fun numeral => ⟨numeral.1.2, numeral.2⟩⟩
    · exact List.cons_ne_nil c rest

/-- Whole numbers are read from numerals with signs and without. -/
theorem toInt?_eq_some_iff {text : List Char} {n : Int} : toInt? text = some n ↔ Signed text n := by
  constructor
  · intro read
    unfold toInt? at read
    split at read
    all_goals
      obtain ⟨value, isValue, rfl⟩ := Option.map_eq_some_iff.mp read
      obtain ⟨isNumeral, rfl⟩ := toNat?_eq_some_iff.mp isValue
    · exact .minus isNumeral
    · exact .plus isNumeral
    · exact .numeral isNumeral
  · intro signed
    have value {digits : List Char} (isNumeral : Numeral digits) :
        toNat? digits = some (number digits) := toNat?_eq_some_iff.mpr ⟨isNumeral, rfl⟩
    cases signed with
    | plus isNumeral => simp [toInt?, value isNumeral]
    | minus isNumeral => simp [toInt?, value isNumeral]
    | numeral isNumeral =>
      unfold toInt?
      split
      · exact absurd (isNumeral.2 '-' List.mem_cons_self) (by decide)
      · exact absurd (isNumeral.2 '+' List.mem_cons_self) (by decide)
      · simp [value isNumeral]

/-- A whole number is read from its text. -/
theorem toInt?_ofInt (n : Int) : toInt? (ofInt n) = some n := by
  obtain ⟨isNumeral, value⟩ := toNat?_eq_some_iff.mp (toNat?_ofNat n.natAbs)
  rw [toInt?_eq_some_iff, ofInt]
  split
  · have opposite : n = -(number (ofNat n.natAbs)) := by omega
    have signed := Signed.minus isNumeral
    rwa [← opposite] at signed
  · have same : (number (ofNat n.natAbs) : Int) = n := by omega
    have signed := Signed.numeral isNumeral
    rwa [same] at signed

/-- A word is read from its text. -/
theorem toInt64?_ofInt (word : Int64) : toInt64? (ofInt word.toInt) = some word := by
  have bounds : Int64.minValue.toInt <= word.toInt && word.toInt <= Int64.maxValue.toInt := by
    simp only [Bool.and_eq_true, decide_eq_true_eq]
    exact ⟨word.minValue_le_toInt, word.toInt_le⟩
  rw [toInt64?, toInt?_ofInt, Option.bind_some, toWord?, if_pos bounds, Int64.ofInt_toInt]

end Outreach.Digits
