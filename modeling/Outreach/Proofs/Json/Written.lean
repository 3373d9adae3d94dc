import Mathlib.Data.List.TakeWhile
import Outreach.Json.Printer
import Outreach.Json.Reader
import Outreach.Proofs.Text.Digits

/-!
# Written JSON is read

The compact text of a value is cut into the tokens of the value, and the tokens are taken for the
value. So a value is read from its compact text if its numbers are whole and it is not nested too
deeply (`ofText?_compactChars`).
-/

namespace Outreach

namespace Digits

/-- Only the number zero is written with a zero in front. -/
theorem head?_ofNat {n : Nat} (positive : n ≠ 0) : (ofNat n).head? ≠ some '0' := by
  induction n using Nat.strongRecOn with
  | ind n ih =>
    rw [ofNat]
    split
    · rename_i small
      have all : ∀ n < 10, n ≠ 0 -> [digit n].head? ≠ some '0' := by decide
      exact all n small positive
    · rename_i large
      rw [List.head?_append, List.head?_eq_some_head (ofNat_ne_nil (n / 10)), Option.some_or,
        ← List.head?_eq_some_head]
      exact ih (n / 10) (by omega) (by omega)

end Digits

namespace Json

section Strings

theorem hexValue?_digitChar {value : Nat} (small : value < 16) :
    hexValue? (Nat.digitChar value) = some value := by
  have all : ∀ value < 16, hexValue? (Nat.digitChar value) = some value := by decide
  exact all value small

/-- A letter after a backslash is read as the character that it stands for. -/
theorem stringBody?_escape {letter plain : Char} (stands : escape? letter = some plain)
    (rest : List Char) :
    stringBody? ('\\' :: letter :: rest) =
      (stringBody? rest).map (fun body => (plain :: body.1, body.2)) := by
  rw [stringBody?, stands]
  rintro a b c d after rfl
  cases stands

/-- A character is read from what it is written as. -/
theorem stringBody?_escapedChar (c : Char) (rest : List Char) :
    stringBody? (escapedChar c ++ rest) =
      (stringBody? rest).map (fun body => (c :: body.1, body.2)) := by
  have escaped (letter : Char) (stands : escape? letter = some c) :
      stringBody? (['\\', letter] ++ rest) =
        (stringBody? rest).map (fun body => (c :: body.1, body.2)) :=
    stringBody?_escape stands rest
  unfold escapedChar
  split
  · subst c; exact escaped '"' rfl
  split
  · subst c; exact escaped '\\' rfl
  split
  · subst c; exact escaped 'n' rfl
  split
  · subst c; exact escaped 'r' rfl
  split
  · subst c; exact escaped 't' rfl
  split
  · subst c; exact escaped 'b' rfl
  split
  · subst c; exact escaped 'f' rfl
  split
  · rename_i small
    have unit : unit? '0' '0' (Nat.digitChar (c.toNat / 16)) (Nat.digitChar (c.toNat % 16)) =
        some c.toNat := by
      have zero : hexValue? '0' = some 0 := rfl
      simp only [unit?, zero, hexValue?_digitChar (show c.toNat / 16 < 16 by omega),
        hexValue?_digitChar (show c.toNat % 16 < 16 by omega), bind, Option.bind_some, pure,
        Option.some.injEq]
      omega
    have single : (decide (c.toNat < 0xD800) || decide (0xDFFF < c.toNat)) = true := by
      rw [Bool.or_eq_true, decide_eq_true_eq]
      omega
    simp only [List.cons_append, List.nil_append]
    rw [stringBody?, unit]
    simp only [single, if_true, Char.ofNat_toNat]
  · rename_i noQuote noBackslash _ _ _ _ _ plain
    rw [List.singleton_append, stringBody?, if_neg plain]
    · exact noQuote
    · exact fun _ _ _ _ _ isBackslash => absurd isBackslash noBackslash
    · exact fun _ _ isBackslash => absurd isBackslash noBackslash

/-- A string is read up to the quote that ends it. -/
theorem stringBody?_written (text rest : List Char) :
    stringBody? (text.flatMap escapedChar ++ '"' :: rest) = some (text, rest) := by
  induction text with
  | nil => rw [List.flatMap_nil, List.nil_append, stringBody?]
  | cons c text ih =>
    rw [List.flatMap_cons, List.append_assoc, stringBody?_escapedChar, ih, Option.map_some]

end Strings

section Numbers

open Digits (continued? continued?_eq_some_iff isDigit value?)

/-- Digits that write a 64-bit word are all absorbed. -/
theorem absorbDigits_of_continued? {before n : Nat} {digits : List Char}
    (read : continued? before digits = some n) (small : n < UInt64.size) :
    absorbDigits before digits = (n, 0) := by
  induction digits generalizing before with
  | nil =>
    cases read
    rfl
  | cons c rest ih =>
    have digit : isDigit c = true := (continued?_eq_some_iff.mp read).1 c List.mem_cons_self
    have value : value? c = some (c.toNat - 48) := if_pos digit
    rw [continued?, value] at read
    have least : before * 10 + (c.toNat - 48) <= n := by
      obtain ⟨-, rfl⟩ := continued?_eq_some_iff.mp read
      exact Nat.le_add_right_of_le (Nat.le_mul_of_pos_right _ (Nat.pow_pos (by decide)))
    rw [absorbDigits, if_pos (by omega)]
    exact ih read

/-- The digits of a number are not empty, and there is no zero in front of others. -/
theorem plain_ofNat (n : Nat) :
    ((Digits.ofNat n).isEmpty ||
      ((Digits.ofNat n).head? = some '0' && (Digits.ofNat n).length != 1)) = false := by
  by_cases zero : n = 0
  · rw [zero, Digits.ofNat]
    rfl
  · simp [Digits.head?_ofNat zero, Digits.ofNat_ne_nil]

/-- The least and the greatest whole number of 64 bits, with a sign or without. -/
def InWords (value : Int) : Prop := -(UInt64.size / 2 : Nat) <= value ∧ value < UInt64.size

/-- A whole number is read from its digits. -/
theorem number?_ofInt {value : Int} (within : InWords value) :
    number? (Digits.ofInt value) = some (.integer value) := by
  obtain ⟨least, most⟩ := within
  have digits := Digits.isDigit_of_mem_ofNat value.natAbs
  have whole : (Digits.ofNat value.natAbs).takeWhile isDigit = Digits.ofNat value.natAbs :=
    List.takeWhile_eq_self_iff.mpr digits
  have nothing : (Digits.ofNat value.natAbs).dropWhile isDigit = [] :=
    List.dropWhile_eq_nil_iff.mpr digits
  have word : value.natAbs < UInt64.size := by
    simp only [UInt64.size] at least most ⊢
    omega
  have absorbed : absorbDigits 0 (Digits.ofNat value.natAbs) = (value.natAbs, 0) := by
    refine absorbDigits_of_continued? ?_ word
    rw [Digits.continued?_ofNat, Nat.zero_mul, Nat.zero_add]
  unfold Digits.ofInt
  split
  · rename_i negative
    have small : (decide (value.natAbs = 0) || decide (UInt64.size / 2 < value.natAbs)) = false := by
      simp only [Bool.or_eq_false_iff, decide_eq_false_iff_not]
      omega
    have same : -(value.natAbs : Int) = value := by omega
    simp only [number?, whole, nothing, plain_ofNat, Bool.false_eq_true, if_false, reduceCtorEq,
      numberOf?, absorbed, Option.isNone_none, Bool.and_self, decide_true, if_true, Bool.not_true,
      small, same]
  · rename_i positive
    have same : (value.natAbs : Int) = value := by omega
    unfold number?
    split
    rename_i negative unsigned sign
    split at sign
    · rename_i signed
      have digit := digits '-' (signed ▸ List.mem_cons_self)
      exact absurd digit (by decide)
    · cases sign
      simp only [whole, nothing, plain_ofNat, Bool.false_eq_true, if_false, reduceCtorEq,
        numberOf?, absorbed, Option.isNone_none, Bool.and_self, decide_true, if_true,
        Bool.not_false, same]

end Numbers

section Tokens

/-- The tokens that write a value. -/
def tokens : Json -> List Token
  | .string value => [.text value]
  | .array items => .openArray :: ofItems items ++ [.closeArray]
  | .object members => .openObject :: ofMembers members ++ [.closeObject]
  | other => [.scalar other]
where
  /-- The items of an array with commas between them. -/
  ofItems : List Json -> List Token
    | [] => []
    | [item] => tokens item
    | item :: rest => tokens item ++ .comma :: ofItems rest
  /-- The members of an object with commas between them. -/
  ofMembers : List (String × Json) -> List Token
    | [] => []
    | [(name, value)] => .text name :: .colon :: tokens value
    | (name, value) :: rest => .text name :: .colon :: tokens value ++ .comma :: ofMembers rest

/-- All numbers in a value are whole. -/
def IsWhole : Json -> Prop
  | .integer value => InWords value
  | .real _ => False
  | .array items => inItems items
  | .object members => inMembers members
  | _ => True
where
  /-- All numbers in some values are whole. -/
  inItems : List Json -> Prop
    | [] => True
    | item :: rest => IsWhole item ∧ inItems rest
  /-- All numbers in some members are whole. -/
  inMembers : List (String × Json) -> Prop
    | [] => True
    | (_, value) :: rest => IsWhole value ∧ inMembers rest

/-- A text that does not go on with a number in front of it. -/
def Ends (rest : List Char) : Prop := ∀ c ∈ rest.head?, isNumberChar c = false

theorem ends_cons {c : Char} (rest : List Char) (other : isNumberChar c = false) :
    Ends (c :: rest) := by
  rintro d ⟨⟩
  exact other

/-- The characters that are tokens by themselves. -/
def marks : List (Char × Token) :=
  [('\x7b', .openObject), ('\x7d', .closeObject), ('[', .openArray), (']', .closeArray),
    (':', .colon), (',', .comma)]

/-- A character that is a token is cut off. -/
theorem tokens?_mark (c : Char) (token : Token) (mark : (c, token) ∈ marks) (rest : List Char) :
    tokens? (c :: rest) = (tokens? rest).map (token :: ·) := by
  simp only [marks, List.mem_cons, List.not_mem_nil, or_false, Prod.mk.injEq] at mark
  rcases mark with ⟨rfl, rfl⟩ | ⟨rfl, rfl⟩ | ⟨rfl, rfl⟩ | ⟨rfl, rfl⟩ | ⟨rfl, rfl⟩ | ⟨rfl, rfl⟩ <;>
    simp [tokens?, isSpace]

/-- A string is cut off. -/
theorem tokens?_writtenString (text : String) (rest : List Char) :
    tokens? (writtenString text ++ rest) = (tokens? rest).map (.text text :: ·) := by
  have body : stringBody? (text.toList.flatMap escapedChar ++ '"' :: rest) =
      some (text.toList, rest) :=
    stringBody?_written text.toList rest
  have written : writtenString text ++ rest =
      '"' :: (text.toList.flatMap escapedChar ++ '"' :: rest) := by
    simp [writtenString]
  have space : isSpace '"' = false := by decide
  rw [written, tokens?.eq_def]
  simp only [space, Bool.false_eq_true, Char.reduceEq, if_false, if_true]
  split
  · rename_i characters after read
    cases body.symm.trans read
    rw [String.ofList_toList]
  · rename_i unread
    cases body.symm.trans unread

/-- A number is cut off where it ends. -/
theorem tokens?_number {c : Char} {more rest : List Char} {value : Json}
    (numeric : ∀ d ∈ c :: more, isNumberChar d = true) (read : number? (c :: more) = some value)
    (ends : Ends rest) :
    tokens? (c :: more ++ rest) = (tokens? rest).map (.scalar value :: ·) := by
  have first : isNumberChar c = true := numeric c List.mem_cons_self
  have other {d : Char} (nonNumeric : isNumberChar d = false) : c ≠ d := by
    rintro rfl
    rw [first] at nonNumeric
    cases nonNumeric
  have space : isSpace c = false := by
    simp [isSpace, other (d := ' ') rfl, other (d := '\n') rfl, other (d := '\t') rfl,
      other (d := '\r') rfl]
  have inside := List.forall_mem_cons.mp numeric
  have kept : (more ++ rest).takeWhile isNumberChar = more := by
    rw [List.takeWhile_append_of_pos inside.2]
    cases rest with
    | nil => rw [List.takeWhile_nil, List.append_nil]
    | cons d rest => rw [List.takeWhile_cons_of_neg (by simp [ends d rfl]), List.append_nil]
  have left : (more ++ rest).dropWhile isNumberChar = rest := by
    rw [List.dropWhile_append_of_pos inside.2]
    cases rest with
    | nil => rw [List.dropWhile_nil]
    | cons d rest => rw [List.dropWhile_cons_of_neg (by simp [ends d rfl])]
  rw [List.cons_append, tokens?.eq_def]
  simp only [space, other (d := '\x7b') rfl, other (d := '\x7d') rfl, other (d := '[') rfl,
    other (d := ']') rfl, other (d := ':') rfl, other (d := ',') rfl, other (d := '"') rfl, first,
    Bool.false_eq_true, if_false, if_true, kept, left, read]

/-- A whole number is cut off where it ends. -/
theorem tokens?_ofInt {value : Int} (within : InWords value) {rest : List Char}
    (ends : Ends rest) :
    tokens? (Digits.ofInt value ++ rest) =
      (tokens? rest).map (.scalar (.integer value) :: ·) := by
  have digits : ∀ d ∈ Digits.ofNat value.natAbs, isNumberChar d = true := by
    intro d member
    simp [isNumberChar, Digits.isDigit_of_mem_ofNat _ d member]
  have numeric : ∀ d ∈ Digits.ofInt value, isNumberChar d = true := by
    unfold Digits.ofInt
    split
    · exact List.forall_mem_cons.mpr ⟨rfl, digits⟩
    · exact digits
  have read := number?_ofInt within
  cases written : Digits.ofInt value with
  | nil =>
    rw [written] at read
    cases read
  | cons c more =>
    rw [written] at numeric read
    exact tokens?_number numeric read ends

mutual

/-- The text of a value is cut into the tokens of the value. -/
theorem tokens?_compactChars :
    forall json : Json, json.IsWhole -> forall rest : List Char, Ends rest ->
      tokens? (json.compactChars ++ rest) = (tokens? rest).map (json.tokens ++ ·)
  | .null, _, rest, _ => by
    simp [compactChars, tokens, tokens?, isSpace, isNumberChar, Digits.isDigit]
  | .bool true, _, rest, _ => by
    simp [compactChars, tokens, tokens?, isSpace, isNumberChar, Digits.isDigit]
  | .bool false, _, rest, _ => by
    simp [compactChars, tokens, tokens?, isSpace, isNumberChar, Digits.isDigit]
  | .integer value, within, rest, ends => tokens?_ofInt within ends
  | .string text, _, rest, _ => tokens?_writtenString text rest
  | .array items, whole, rest, _ => by
    have inside := tokens?_compactItems items whole (']' :: rest) (ends_cons rest rfl)
    have start := tokens?_mark '[' .openArray (by simp [marks])
      (compactChars.compactItems items ++ ']' :: rest)
    have close := tokens?_mark ']' .closeArray (by simp [marks]) rest
    simp only [compactChars, tokens, List.cons_append, List.append_assoc, List.nil_append]
    rw [start, inside, close]
    simp [Function.comp_def]
  | .object members, whole, rest, _ => by
    have inside := tokens?_compactMembers members whole ('\x7d' :: rest) (ends_cons rest rfl)
    have start := tokens?_mark '\x7b' .openObject (by simp [marks])
      (compactChars.compactMembers members ++ '\x7d' :: rest)
    have close := tokens?_mark '\x7d' .closeObject (by simp [marks]) rest
    simp only [compactChars, tokens, List.cons_append, List.append_assoc, List.nil_append]
    rw [start, inside, close]
    simp [Function.comp_def]

theorem tokens?_compactItems :
    forall items : List Json, IsWhole.inItems items -> forall rest : List Char, Ends rest ->
      tokens? (compactChars.compactItems items ++ rest) =
        (tokens? rest).map (tokens.ofItems items ++ ·)
  | [], _, rest, _ => by simp [compactChars.compactItems, tokens.ofItems]
  | [item], whole, rest, ends => tokens?_compactChars item whole.1 rest ends
  | item :: next :: others, whole, rest, ends => by
    have later := tokens?_compactItems (next :: others) whole.2 rest ends
    have comma := tokens?_mark ',' .comma (by simp [marks])
      (compactChars.compactItems (next :: others) ++ rest)
    have first := tokens?_compactChars item whole.1
      (',' :: (compactChars.compactItems (next :: others) ++ rest)) (ends_cons _ rfl)
    simp only [compactChars.compactItems, tokens.ofItems, List.append_assoc, List.cons_append]
    rw [first, comma, later]
    simp [Function.comp_def]

theorem tokens?_compactMembers :
    forall members : List (String × Json), IsWhole.inMembers members ->
      forall rest : List Char, Ends rest ->
        tokens? (compactChars.compactMembers members ++ rest) =
          (tokens? rest).map (tokens.ofMembers members ++ ·)
  | [], _, rest, _ => by simp [compactChars.compactMembers, tokens.ofMembers]
  | [(name, value)], whole, rest, ends => by
    have colon := tokens?_mark ':' .colon (by simp [marks])
      (value.compactChars ++ rest)
    have held := tokens?_compactChars value whole.1 rest ends
    rw [compactChars.compactMembers, List.append_assoc, List.cons_append, tokens?_writtenString,
      colon, held, tokens.ofMembers]
    simp [Function.comp_def]
  | (name, value) :: next :: others, whole, rest, ends => by
    have later := tokens?_compactMembers (next :: others) whole.2 rest ends
    have comma := tokens?_mark ',' .comma (by simp [marks])
      (compactChars.compactMembers (next :: others) ++ rest)
    have held := tokens?_compactChars value whole.1
      (',' :: (compactChars.compactMembers (next :: others) ++ rest)) (ends_cons _ rfl)
    have colon := tokens?_mark ':' .colon (by simp [marks])
      (value.compactChars ++ ',' :: (compactChars.compactMembers (next :: others) ++ rest))
    simp only [compactChars.compactMembers, tokens.ofMembers, List.append_assoc, List.cons_append]
    rw [tokens?_writtenString, colon, held, comma, later]
    simp [Function.comp_def]

end

end Tokens

section Reading

open Reading

variable {limit : Nat}

/-- Tokens are taken one after the other. -/
theorem steps_append {reading next : Reading} {left : List Token}
    (taken : steps limit reading left = some next) (right : List Token) :
    steps limit reading (left ++ right) = steps limit next right := by
  induction left generalizing reading with
  | nil =>
    cases taken
    rfl
  | cons token rest ih =>
    obtain ⟨between, here, later⟩ := Option.bind_eq_some_iff.mp taken
    rw [List.cons_append, steps, here, Option.bind_some, ih later]

mutual

/-- The tokens of a value that is not nested too deeply complete the value. -/
theorem steps_tokens :
    forall (json : Json) (frames : List Frame) (first : Bool),
      frames.length + json.height < limit ->
        steps limit (.expectValue frames first) json.tokens = some (.complete json frames)
  | .null, _, _, _ => rfl
  | .bool _, _, _, _ => rfl
  | .integer _, _, _, _ => rfl
  | .real _, _, _, _ => rfl
  | .string _, _, _, _ => rfl
  | .array [], frames, first, room => by
    have room : frames.length + 1 < limit := room
    simp [tokens, tokens.ofItems, steps, step, room]
  | .array (item :: rest), frames, first, room => by
    rw [height] at room
    have deeper : frames.length + 1 < limit := by omega
    have inside := steps_ofItems (item :: rest) [] frames true (List.cons_ne_nil _ _) (by omega)
    simp only [tokens, List.cons_append, steps, step, deeper, if_true, Option.bind_some, inside]
    rfl
  | .object [], frames, first, room => by
    have room : frames.length + 1 < limit := room
    simp [tokens, tokens.ofMembers, steps, step, room]
  | .object (member :: rest), frames, first, room => by
    rw [height] at room
    have deeper : frames.length + 1 < limit := by omega
    have inside := steps_ofMembers (member :: rest) [] frames true (List.cons_ne_nil _ _) (by omega)
    simp only [tokens, List.cons_append, steps, step, deeper, if_true, Option.bind_some, inside]
    rfl

/-- The tokens of items and the bracket behind them complete an array. -/
theorem steps_ofItems :
    forall (items done : List Json) (frames : List Frame) (first : Bool), items ≠ [] ->
      frames.length + height.itemsHeight items + 1 < limit ->
        steps limit (.expectValue (.array done :: frames) first)
            (tokens.ofItems items ++ [.closeArray]) =
          some (.complete (.array (done.reverse ++ items)) frames)
  | [], _, _, _, nonempty, _ => absurd rfl nonempty
  | [item], done, frames, first, _, room => by
    simp only [height.itemsHeight] at room
    have held := steps_tokens item (.array done :: frames) first
      (by rw [List.length_cons]; omega)
    rw [tokens.ofItems, steps_append held]
    simp [steps, step]
  | item :: next :: rest, done, frames, first, _, room => by
    rw [height.itemsHeight] at room
    have held := steps_tokens item (.array done :: frames) first
      (by rw [List.length_cons]; omega)
    have later := steps_ofItems (next :: rest) (item :: done) frames false (List.cons_ne_nil _ _)
      (by omega)
    simp only [tokens.ofItems, List.append_assoc, List.cons_append, steps_append held, steps, step,
      Option.bind_some, later]
    simp

/-- The tokens of members and the brace behind them complete an object. -/
theorem steps_ofMembers :
    forall (members done : List (String × Json)) (frames : List Frame) (first : Bool),
      members ≠ [] -> frames.length + height.membersHeight members + 1 < limit ->
        steps limit (.expectName done frames first)
            (tokens.ofMembers members ++ [.closeObject]) =
          some (.complete (.object (done.reverse ++ members)) frames)
  | [], _, _, _, nonempty, _ => absurd rfl nonempty
  | [(name, value)], done, frames, first, _, room => by
    simp only [height.membersHeight] at room
    have held := steps_tokens value (.object done name :: frames) false
      (by rw [List.length_cons]; omega)
    simp only [tokens.ofMembers, List.cons_append, steps, step, Option.bind_some,
      steps_append held]
    simp
  | (name, value) :: next :: rest, done, frames, first, _, room => by
    rw [height.membersHeight] at room
    have held := steps_tokens value (.object done name :: frames) false
      (by rw [List.length_cons]; omega)
    have later := steps_ofMembers (next :: rest) ((name, value) :: done) frames false
      (List.cons_ne_nil _ _) (by omega)
    simp only [tokens.ofMembers, List.append_assoc, List.cons_append, steps, step, Option.bind_some,
      steps_append held, later]
    simp

end

end Reading

/-- A value is read from its compact text, if its numbers are whole and it is not nested too
deeply. -/
theorem ofText?_compactChars {json : Json} {limit : Nat} (whole : json.IsWhole)
    (shallow : json.height < limit) : ofText? limit json.compactChars = some json := by
  have cut := tokens?_compactChars json whole [] nofun
  have taken : Reading.steps limit (.expectValue [] false) json.tokens = some (.complete json []) :=
    steps_tokens json [] false (by simpa using shallow)
  rw [List.append_nil] at cut
  simp [ofText?, ofTokens?, cut, taken, tokens?, Reading.finished?]

end Json

end Outreach
