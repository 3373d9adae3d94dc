import Outreach.Proofs.Text.Digits
import Outreach.Proofs.Time.Calendar
import Outreach.Time.Printer
import Outreach.Time.Reader

/-!
# Written instants are read back

The text of an instant is of the relaxed form and is read as the instant, whatever its year and
also within a leap second. The text is read part by part: a number, and then a character that is
no digit.
-/

namespace Outreach.Time

open Digits

section Numbers

variable {digits rest : List Char} {stop : Char}

theorem length_le_byteLength (text : List Char) : text.length <= byteLength text := by
  induction text with
  | nil => exact Nat.le_refl 0
  | cons c rest ih =>
    have positive : 0 < c.utf8Size := c.utf8Size_pos
    rw [List.length_cons, byteLength, List.foldr_cons]
    rw [byteLength] at ih
    omega

/-- The digits in front of another character are those that are read. -/
theorem takeWhile_digits (all : ∀ c ∈ digits, isDigit c = true) (ends : isDigit stop = false) :
    (digits ++ stop :: rest).takeWhile isDigit = digits := by
  rw [List.takeWhile_append_of_pos all, List.takeWhile_cons_of_neg (by rw [ends]; decide),
    List.append_nil]

/-- A number is read up to the first character that is no digit. -/
theorem number_append {least value : Nat} {most : Option Nat}
    (all : ∀ c ∈ digits, isDigit c = true) (ends : isDigit stop = false)
    (writes : toNat? digits = some value) (word : value < UInt64.size / 2)
    (enough : least <= digits.length) (few : ∀ limit ∈ most, digits.length <= limit) :
    number least most (digits ++ stop :: rest) = .ok (value, stop :: rest) := by
  have long : ¬ byteLength (digits ++ stop :: rest) < least := by
    have bound := length_le_byteLength (digits ++ stop :: rest)
    rw [List.length_append] at bound
    omega
  have wide : ¬ digits.length < least := Nat.not_lt.mpr enough
  simp only [number, if_neg long, takeWhile_digits all ends]
  cases most with
  | none => simp only [if_neg wide, writes, if_pos word, List.drop_left]
  | some limit =>
    have kept : digits.take limit = digits := List.take_of_length_le (few limit rfl)
    simp only [kept, if_neg wide, writes, if_pos word, List.drop_left]

/-- A number that is padded to a width is read in so many digits. -/
theorem number_padded {least width value : Nat} {most : Option Nat} (positive : 0 < width)
    (fits : value < 10 ^ width) (word : value < UInt64.size / 2) (enough : least <= width)
    (few : ∀ limit ∈ most, width <= limit) (ends : isDigit stop = false) :
    number least most (padded width value ++ stop :: rest) = .ok (value, stop :: rest) := by
  have width := length_padded positive fits
  exact number_append (isDigit_of_mem_padded _ _) ends (toNat?_padded _ _) word (by omega)
    (fun limit member => by have := few limit member; omega)

/-- A digit is no white space. -/
theorem isBlank_of_isDigit {c : Char} (digit : isDigit c = true) : Text.isBlank c = false := by
  simp only [isDigit, Bool.and_eq_true, decide_eq_true_eq, Char.le_def, UInt32.le_iff_toNat_le]
    at digit
  have least : 48 <= c.toNat := digit.1
  have most : c.toNat <= 57 := digit.2
  simp only [Text.isBlank, Bool.or_eq_false_iff, Bool.and_eq_false_iff, decide_eq_false_iff_not,
    beq_eq_false_iff_ne]
  omega

/-- In front of a padded number there is no white space. -/
theorem trimStart_padded (width value : Nat) :
    Text.trimStart (padded width value ++ rest) = padded width value ++ rest := by
  cases written : padded width value with
  | nil => exact absurd written (padded_ne_nil width value)
  | cons c others =>
    have digit := isDigit_of_mem_padded width value c (written ▸ List.mem_cons_self)
    rw [List.cons_append, Text.trimStart, List.dropWhile_cons_of_neg]
    rw [isBlank_of_isDigit digit]
    decide

/-- A padded number begins with nothing but a digit. -/
theorem padded_append_ne {width value : Nat} {rest others : List Char} {c : Char}
    (other : isDigit c = false) : padded width value ++ rest ≠ c :: others := by
  intro starts
  cases written : padded width value with
  | nil => exact padded_ne_nil width value written
  | cons first digits =>
    have digit := isDigit_of_mem_padded width value first (written ▸ List.mem_cons_self)
    rw [written, List.cons_append] at starts
    rw [(List.cons.inj starts).1, other] at digit
    cases digit

/-- A number of two digits is read as part of a date or a time. -/
theorem relaxedNumber_padded {least most value : Nat} (bounds : least <= value ∧ value <= most)
    (small : most < 100) (ends : isDigit stop = false) :
    relaxedNumber least most (padded 2 value ++ stop :: rest) = .ok (value, stop :: rest) := by
  have inside : ((least : Int) <= value && (value : Int) <= most) = true := by
    simp only [Bool.and_eq_true, decide_eq_true_eq]
    omega
  have two : ∀ limit ∈ some 2, 2 <= limit := by
    rintro limit ⟨⟩
    exact Nat.le_refl 2
  have word : value < UInt64.size / 2 := Nat.lt_of_lt_of_le (by omega : value < 100) (by decide)
  rw [relaxedNumber, trimStart_padded,
    number_padded (by decide) (by omega) word (by decide) two ends]
  simp only [bind, Except.bind, checked, inside, if_true]

end Numbers

section Parts

variable {rest : List Char}

/-- The year of an instant is read, with or without its sign. -/
theorem year_yearText {value : Int} (few : value.natAbs <= 300000) :
    year (Instant.yearText value ++ '-' :: rest) = .ok (value, '-' :: rest) := by
  have word : value.natAbs < UInt64.size / 2 := Nat.lt_of_le_of_lt few (by decide)
  have hyphen : isDigit '-' = false := by decide
  have unsigned : number 1 none (padded 4 value.natAbs ++ '-' :: rest) =
      .ok (value.natAbs, '-' :: rest) :=
    number_append (isDigit_of_mem_padded _ _) hyphen (toNat?_padded _ _) word
      (List.length_pos_iff.mpr (padded_ne_nil _ _)) nofun
  have inside : (Int32.minValue.toInt <= value && value <= Int32.maxValue.toInt) = true := by
    simp only [Bool.and_eq_true, decide_eq_true_eq,
      show Int32.minValue.toInt = -2147483648 from rfl,
      show Int32.maxValue.toInt = 2147483647 from rfl]
    omega
  unfold Instant.yearText
  split
  · rename_i plain
    simp only [Bool.and_eq_true, decide_eq_true_eq] at plain
    have four : ∀ limit ∈ some 4, 4 <= limit := by
      rintro limit ⟨⟩
      exact Nat.le_refl 4
    have read : number 1 (some 4) (padded 4 value.toNat ++ '-' :: rest) =
        .ok (value.toNat, '-' :: rest) :=
      number_padded (by decide) (by omega) (by omega) (by decide) four hyphen
    have nonnegative : ((value.toNat : Nat) : Int) = value := by omega
    simp only [year, trimStart_padded]
    split
    · rename_i others starts
      exact absurd starts (padded_append_ne (by decide))
    · rename_i others starts
      exact absurd starts (padded_append_ne (by decide))
    · simp only [read, bind, Except.bind, nonnegative]
  · rename_i signed
    by_cases negative : value < 0
    · have value' : -((value.natAbs : Nat) : Int) = value := by omega
      have blank : Text.isBlank '-' = false := by decide
      simp only [negative, if_true, List.cons_append, year, Text.trimStart, List.dropWhile_cons,
        blank, if_false, Bool.false_eq_true, unsigned, bind, Except.bind, checked, value', inside]
    · have value' : ((value.natAbs : Nat) : Int) = value := by omega
      have blank : Text.isBlank '+' = false := by decide
      simp only [negative, List.cons_append, year, Text.trimStart, List.dropWhile_cons, blank,
        if_false, Bool.false_eq_true, unsigned, bind, Except.bind, checked, value', inside, if_true]

/-- The fraction of a second is read. -/
theorem fraction_fractionText {nanosecond : Nat} (small : nanosecond < 1000000000) :
    fraction (Instant.fractionText nanosecond ++ 'Z' :: rest) = .ok (nanosecond, 'Z' :: rest) := by
  have letter : isDigit 'Z' = false := by decide
  have read : ∀ width value, 0 < width -> width <= 9 -> value < 10 ^ width ->
      fraction ('.' :: padded width value ++ 'Z' :: rest) =
        .ok (value * 10 ^ (9 - width), 'Z' :: rest) := by
    intro width value positive nine fits
    have bound : 10 ^ width <= 10 ^ 9 := Nat.pow_le_pow_right (by decide) nine
    have limit : ∀ limit ∈ some 9, width <= limit := by
      rintro limit ⟨⟩
      exact nine
    have word : value < UInt64.size / 2 :=
      Nat.lt_of_lt_of_le (Nat.lt_of_lt_of_le fits bound) (by decide)
    have read : number 1 (some 9) (padded width value ++ 'Z' :: rest) =
        .ok (value, 'Z' :: rest) :=
      number_padded positive fits word positive limit letter
    have count : (padded width value ++ 'Z' :: rest).length - ('Z' :: rest).length = width := by
      rw [List.length_append, length_padded positive fits]
      omega
    simp only [List.cons_append, fraction, read, bind, Except.bind, count, List.dropWhile_cons,
      letter, if_false, Bool.false_eq_true, Nat.pow_eq]
  unfold Instant.fractionText
  split
  · rename_i none
    rw [none]
    rfl
  · split
    · rename_i milli
      rw [read 3 _ (by decide) (by decide) (by omega)]
      congr 2
      omega
    · split
      · rename_i micro
        rw [read 6 _ (by decide) (by decide) (by omega)]
        congr 2
        omega
      · rw [read 9 _ (by decide) (by decide) (by omega)]
        congr 2
        omega

/-- What follows the seconds is no digit. -/
theorem fractionText_append_cons (nanosecond : Nat) (rest : List Char) :
    ∃ stop others, isDigit stop = false ∧
      Instant.fractionText nanosecond ++ 'Z' :: rest = stop :: others := by
  unfold Instant.fractionText
  split
  · exact ⟨'Z', _, by decide, rfl⟩
  · split
    · exact ⟨'.', _, by decide, rfl⟩
    · split <;> exact ⟨'.', _, by decide, rfl⟩

end Parts

/-- A mark between two numbers is passed over. -/
theorem expected_trimStart {c : Char} (mark : Text.isBlank c = false) (rest : List Char) :
    expected c (Text.trimStart (c :: rest)) = .ok rest := by
  rw [Text.trimStart, List.dropWhile_cons_of_neg (by rw [mark]; decide), expected, if_pos rfl]

/-- The parts of an instant are an instant again. -/
theorem ofParts?_parts (instant : Instant) :
    Instant.ofParts? instant.day instant.second instant.nanosecond = some instant := by
  have valid := And.intro instant.day_inRange (And.intro instant.second_lt instant.nanosecond_lt)
  rw [Instant.ofParts?, dif_pos valid]

/-- On a clock of universal time an instant reads as its parts. -/
theorem ahead?_zero (instant : Instant) : instant.ahead? 0 = some instant := by
  have second := instant.second_lt
  have day : instant.day + ((instant.second : Int) - 0 * 60) / 86400 = instant.day := by omega
  have same : (((instant.second : Int) - 0 * 60) % 86400).toNat = instant.second := by omega
  rw [Instant.ahead?, day, same, ofParts?_parts]

/-- A reading of the parts of an instant, as they are shown, is the instant. -/
theorem toInstant_shown (instant : Instant) :
    Reading.toInstant
      ⟨Calendar.Date.ofDay instant.day, instant.second / 3600, instant.second / 60 % 60,
        instant.second % 60 + (if 1000000000 <= instant.nanosecond then 1 else 0),
        if 1000000000 <= instant.nanosecond then instant.nanosecond - 1000000000
          else instant.nanosecond, 0⟩ =
      .ok instant := by
  have second := instant.second_lt
  have nanosecond := instant.nanosecond_lt
  have counted : (if instant.second % 60 + (if 1000000000 <= instant.nanosecond then 1 else 0) = 60
      then (59, 1000000000 + if 1000000000 <= instant.nanosecond
        then instant.nanosecond - 1000000000 else instant.nanosecond)
      else (instant.second % 60 + (if 1000000000 <= instant.nanosecond then 1 else 0),
        if 1000000000 <= instant.nanosecond then instant.nanosecond - 1000000000
          else instant.nanosecond)) =
      (instant.second % 60, instant.nanosecond) := by
    by_cases leap : 1000000000 <= instant.nanosecond
    · have last : instant.second % 60 = 59 := by omega
      simp only [leap, if_true, last, Prod.mk.injEq, true_and]
      omega
    · have short : instant.second % 60 ≠ 60 := by omega
      simp [leap, short]
  have whole : (instant.second / 3600 * 60 + instant.second / 60 % 60) * 60 + instant.second % 60 =
      instant.second := by omega
  simp only [Reading.toInstant, counted, whole, Calendar.Date.isValid_ofDay,
    Calendar.Date.toDay_ofDay, ofParts?_parts, ahead?_zero]
  rfl

/-- The text of an instant is read as the instant. -/
theorem relaxed_chars (instant : Instant) : relaxed instant.chars = .ok instant := by
  have days := instant.day_inRange
  have second := instant.second_lt
  have nanosecond := instant.nanosecond_lt
  have few : (Calendar.Date.ofDay instant.day).year.natAbs <= 300000 := by
    apply Calendar.Date.natAbs_year_ofDay
    simp only [Instant.firstDay, Instant.lastDay] at days
    omega
  have valid := Calendar.Date.isValid_ofDay instant.day
  have reading := toInstant_shown instant
  simp only [Instant.chars, Instant.timeText]
  generalize Calendar.Date.ofDay instant.day = date at *
  obtain ⟨year, month, day⟩ := date
  simp only [Calendar.Date.isValid, Bool.and_eq_true, decide_eq_true_eq] at valid
  have short : Calendar.monthLength year month <= 31 := by
    unfold Calendar.monthLength
    split
    · split <;> omega
    · split <;> omega
  have shown : instant.second % 60 + (if 1000000000 <= instant.nanosecond then 1 else 0) <= 60 := by
    split <;> omega
  have small : (if 1000000000 <= instant.nanosecond then instant.nanosecond - 1000000000
      else instant.nanosecond) < 1000000000 := by
    split <;> omega
  generalize instant.second % 60 + (if 1000000000 <= instant.nanosecond then 1 else 0) =
    ofMinute at *
  generalize (if 1000000000 <= instant.nanosecond then instant.nanosecond - 1000000000
      else instant.nanosecond) = ofSecond at *
  obtain ⟨stop, others, ends, follows⟩ := fractionText_append_cons ofSecond []
  have hyphen : isDigit '-' = false := by decide
  have colon : isDigit ':' = false := by decide
  have letter : isDigit 'T' = false := by decide
  have hyphenMark : Text.isBlank '-' = false := by decide
  have colonMark : Text.isBlank ':' = false := by decide
  simp only [List.append_assoc, List.cons_append, follows]
  rw [relaxed, year_yearText few]
  simp only [bind, Except.bind, expected_trimStart hyphenMark]
  rw [relaxedNumber_padded ⟨by omega, by omega⟩ (by decide) hyphen]
  simp only [expected_trimStart hyphenMark]
  rw [relaxedNumber_padded ⟨by omega, by omega⟩ (by decide) letter]
  simp only [separator]
  rw [if_pos (by decide)]
  simp only
  rw [relaxedNumber_padded ⟨by omega, by omega⟩ (by decide) colon]
  simp only [expected_trimStart colonMark]
  rw [relaxedNumber_padded ⟨by omega, by omega⟩ (by decide) colon]
  simp only [expected_trimStart colonMark]
  rw [relaxedNumber_padded ⟨by omega, shown⟩ (by decide) ends]
  simp only [← follows, fraction_fractionText small]
  exact reading

end Outreach.Time
