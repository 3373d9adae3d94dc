import Outreach.Json.Basic
import Outreach.Text.Digits

/-!
# The tokens of JSON

A JSON text is a sequence of tokens, with white space between them. This module reads numbers
and strings and cuts a text into its tokens.
-/

namespace Outreach.Json

/-- The smallest part of a JSON text that has a meaning. -/
inductive Token where
  | openObject
  | closeObject
  | openArray
  | closeArray
  | colon
  | comma
  | text (value : String)
  /-- A number, a truth value or `null`. -/
  | scalar (value : Json)

/-- The white space of JSON. -/
def isSpace (c : Char) : Bool := c = ' ' || c = '\n' || c = '\t' || c = '\r'

/-- The characters that a written number may hold. -/
def isNumberChar (c : Char) : Bool :=
  Digits.isDigit c || c = '-' || c = '+' || c = '.' || c = 'e' || c = 'E'

/-- The significand that digits continue as far as it stays a 64-bit word, and the number of
digits that were left over. -/
def absorbDigits (significand : Nat) : List Char -> Nat × Nat
  | [] => (significand, 0)
  | c :: rest =>
    let longer := significand * 10 + (c.toNat - 48)
    if longer < UInt64.size then absorbDigits longer rest else (significand, rest.length + 1)

/-- A number from its sign, the digits before and after its point, and its power of ten. Digits
past a 64-bit significand only count for their place. -/
def numberOf? (negative : Bool) (whole : List Char) (fraction : Option (List Char))
    (exponent : Option Int) : Option Json :=
  let (significand, dropped) := absorbDigits 0 whole
  if fraction.isNone && exponent.isNone && dropped = 0 then
    if !negative then some (.integer significand)
    else if significand = 0 || UInt64.size / 2 < significand then
      (Binary64.ofNat? true significand).map .real
    else some (.integer (-significand))
  else
    let digits := fraction.getD []
    let (significand, unused) := absorbDigits significand digits
    let power : Int := Int.ofNat dropped - Int.ofNat (digits.length - unused) + exponent.getD 0
    (Binary64.ofDecimal? negative significand power).map .real

/-- The power of ten that follows an `e`: digits after an optional sign. -/
def exponent? (text : List Char) : Option Int :=
  match text with
  | '+' :: digits | digits => Digits.toInt? digits |>.filter (fun _ => digits.head? != some '+')

/-- The number that a text writes: an optional minus sign, digits without a leading zero, and
optionally a point with digits and a power of ten. -/
def number? (text : List Char) : Option Json :=
  let (negative, unsigned) :=
    match text with
    | '-' :: rest => (true, rest)
    | rest => (false, rest)
  let whole := unsigned.takeWhile Digits.isDigit
  let afterWhole := unsigned.dropWhile Digits.isDigit
  if whole.isEmpty || (whole.head? = some '0' && whole.length != 1) then none
  else
    let (fraction, afterFraction) :=
      match afterWhole with
      | '.' :: rest => (some (rest.takeWhile Digits.isDigit), rest.dropWhile Digits.isDigit)
      | rest => (none, rest)
    if fraction = some [] then none
    else
      match afterFraction with
      | [] => numberOf? negative whole fraction none
      | c :: rest =>
        if c = 'e' || c = 'E' then do
          numberOf? negative whole fraction (some (<- exponent? rest))
        else none

/-- The value of a digit to the base sixteen. -/
def hexValue? (c : Char) : Option Nat :=
  if '0' <= c && c <= '9' then some (c.toNat - 48)
  else if 'a' <= c && c <= 'f' then some (c.toNat - 87)
  else if 'A' <= c && c <= 'F' then some (c.toNat - 55)
  else none

/-- The 16-bit unit that four digits to the base sixteen write. -/
def unit? (a b c d : Char) : Option Nat := do
  let high := (<- hexValue? a) * 16 + (<- hexValue? b)
  return (high * 16 + (<- hexValue? c)) * 16 + (<- hexValue? d)

/-- The character that a single letter after a backslash stands for. -/
def escape? (c : Char) : Option Char :=
  if c = '"' || c = '\\' || c = '/' then some c
  else if c = 'b' then some '\x08'
  else if c = 'f' then some '\x0c'
  else if c = 'n' then some '\n'
  else if c = 'r' then some '\r'
  else if c = 't' then some '\t'
  else none

/-- The rest of a string up to its closing quote, and what follows the quote. Two units that
form a surrogate pair are one character; a surrogate alone is refused, and so is a control
character that is not escaped. -/
def stringBody? : List Char -> Option (List Char × List Char)
  | [] => none
  | '"' :: rest => some ([], rest)
  | '\\' :: 'u' :: a :: b :: c :: d :: rest =>
    match unit? a b c d with
    | none => none
    | some unit =>
      if unit < 0xD800 || 0xDFFF < unit then
        (stringBody? rest).map (fun body => (Char.ofNat unit :: body.1, body.2))
      else if 0xDC00 <= unit then none
      else
        match rest with
        | '\\' :: 'u' :: e :: f :: g :: h :: rest =>
          match unit? e f g h with
          | none => none
          | some low =>
            if 0xDC00 <= low && low <= 0xDFFF then
              let code := 0x10000 + (unit - 0xD800) * 0x400 + (low - 0xDC00)
              (stringBody? rest).map (fun body => (Char.ofNat code :: body.1, body.2))
            else none
        | _ => none
  | '\\' :: c :: rest =>
    match escape? c with
    | some plain => (stringBody? rest).map (fun body => (plain :: body.1, body.2))
    | none => none
  | c :: rest =>
    if c.toNat < 0x20 then none
    else (stringBody? rest).map (fun body => (c :: body.1, body.2))

/-- Putting a character in front of a string's body does not lengthen what follows it. -/
theorem length_of_prepended {read : Option (List Char × List Char)} {c : Char} {bound : Nat}
    (short : forall body, read = some body -> body.2.length <= bound)
    {body : List Char × List Char}
    (prepended : read.map (fun body => (c :: body.1, body.2)) = some body) :
    body.2.length <= bound := by
  obtain ⟨inner, isRead, rfl⟩ := Option.map_eq_some_iff.mp prepended
  exact short inner isRead

/-- What follows a string's closing quote is no longer than what followed its opening quote. -/
theorem length_of_stringBody? {text : List Char} {body : List Char × List Char}
    (read : stringBody? text = some body) : body.2.length <= text.length := by
  fun_induction stringBody? text generalizing body with
  | case2 => simp_all; subst read; simp
  | case4 | case7 | case10 | case13 =>
    rename_i ih
    have := length_of_prepended (fun _ h => ih h) read
    simp only [List.length_cons]
    omega
  | _ => simp at read

/-- The tokens of a text; `none` where a text has no such. -/
def tokens? (text : List Char) : Option (List Token) :=
  match text with
  | [] => some []
  | c :: rest =>
    if isSpace c then tokens? rest
    else if c = '\x7b' then (tokens? rest).map (.openObject :: ·)
    else if c = '\x7d' then (tokens? rest).map (.closeObject :: ·)
    else if c = '[' then (tokens? rest).map (.openArray :: ·)
    else if c = ']' then (tokens? rest).map (.closeArray :: ·)
    else if c = ':' then (tokens? rest).map (.colon :: ·)
    else if c = ',' then (tokens? rest).map (.comma :: ·)
    else if c = '"' then
      match body : stringBody? rest with
      | some (characters, after) =>
        have := length_of_stringBody? body
        (tokens? after).map (.text (String.ofList characters) :: ·)
      | none => none
    else if isNumberChar c then
      match number? (c :: rest.takeWhile isNumberChar) with
      | some value =>
        have := (List.dropWhile_sublist isNumberChar (l := rest)).length_le
        (tokens? (rest.dropWhile isNumberChar)).map (.scalar value :: ·)
      | none => none
    else
      match c, rest with
      | 'n', 'u' :: 'l' :: 'l' :: after => (tokens? after).map (.scalar .null :: ·)
      | 't', 'r' :: 'u' :: 'e' :: after => (tokens? after).map (.scalar (.bool true) :: ·)
      | 'f', 'a' :: 'l' :: 's' :: 'e' :: after => (tokens? after).map (.scalar (.bool false) :: ·)
      | _, _ => none
termination_by text.length
decreasing_by all_goals simp_all <;> omega

end Outreach.Json
