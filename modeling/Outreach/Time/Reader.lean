import Outreach.Text.Blank
import Outreach.Text.Digits
import Outreach.Time.Instant

/-!
# Reading instants

Two forms of RFC 3339 are read. The *strict* form has a fixed number of digits everywhere; the
*relaxed* form allows white space between its parts, shorter numbers, signed years and
shortened offsets. A bare date stands for its midnight.
-/

namespace Outreach.Time

/-- Why a text is not read as an instant. -/
inductive ReadFault where
  /-- A character that does not belong there. -/
  | invalid
  /-- A number that no date or time has. -/
  | outOfRange
  /-- A date and time that universal time has no date for. -/
  | impossible
  /-- The text ends too early. -/
  | tooShort
  /-- Something follows the instant. -/
  | trailing
deriving DecidableEq

/-- The wording of a fault. -/
def ReadFault.message : ReadFault -> String
  | .invalid => "input contains invalid characters"
  | .outOfRange => "input is out of range"
  | .impossible => "no possible date and time matching input"
  | .tooShort => "premature end of input"
  | .trailing => "trailing input"

/-- The length of a text in UTF-8. -/
def byteLength (text : List Char) : Nat := text.foldr (fun c rest => c.utf8Size + rest) 0

/-- A number of at least `least` and at most `most` digits. It has to fit a signed 64-bit
word. -/
def number (least : Nat) (most : Option Nat) (text : List Char) :
    Except ReadFault (Nat × List Char) :=
  if byteLength text < least then .error .tooShort
  else
    let run := text.takeWhile Digits.isDigit
    let digits := match most with
      | some most => run.take most
      | none => run
    if digits.length < least then .error .invalid
    else
      match Digits.toNat? digits with
      | some value =>
        if value < UInt64.size / 2 then .ok (value, text.drop digits.length) else .error .outOfRange
      | none => .error .invalid

/-- A number of exactly `width` digits. -/
def fixedNumber (width : Nat) (text : List Char) : Except ReadFault (Nat × List Char) :=
  number width (some width) text

/-- A character that has to come next. -/
def expected (c : Char) : List Char -> Except ReadFault (List Char)
  | [] => .error .tooShort
  | next :: rest => if next = c then .ok rest else .error .invalid

/-- What separates a date from a time: a letter T or one blank. -/
def separator : List Char -> Except ReadFault (List Char)
  | [] => .error .tooShort
  | next :: rest =>
    if next = 'T' || next = 't' || next = ' ' then .ok rest else .error .invalid

/-- The fraction of a second in nanoseconds, if a point comes next. Digits past the ninth are
passed over. -/
def fraction (text : List Char) : Except ReadFault (Nat × List Char) :=
  match text with
  | '.' :: rest => do
    let (value, after) <- number 1 (some 9) rest
    let read := rest.length - after.length
    .ok (value * Nat.pow 10 (9 - read), after.dropWhile Digits.isDigit)
  | _ => .ok (0, text)

/-- How the hours and the minutes of an offset are set apart. -/
inductive OffsetForm where
  /-- By a colon. -/
  | strict
  /-- By any colons and white space, or not at all. -/
  | relaxed
deriving DecidableEq

/-- Two digits of an offset, when two bytes are left. -/
def offsetDigits? : List Char -> Option (Option Nat × Option Nat × List Char)
  | [] => none
  | [c] => if c.utf8Size < 2 then none else some (Digits.value? c, none, [])
  | c :: d :: rest => some (Digits.value? c, Digits.value? d, rest)

/-- The minutes by which a clock runs ahead of universal time: a letter Z, or a sign, two digits
of hours and two of minutes. -/
def offset (form : OffsetForm) (text : List Char) : Except ReadFault (Int × List Char) :=
  match text with
  | 'Z' :: rest | 'z' :: rest => .ok (0, rest)
  | _ => do
    let (negative, afterSign) <-
      match text with
      | '+' :: rest => Except.ok (false, rest)
      | '-' :: rest | '−' :: rest => .ok (true, rest)
      | [] => .error .tooShort
      | _ => .error .invalid
    let (hours, afterHours) <-
      match offsetDigits? afterSign with
      | none => Except.error ReadFault.tooShort
      | some (some tens, some ones, rest) => .ok (tens * 10 + ones, rest)
      | some _ => .error .invalid
    let beforeMinutes <-
      match form with
      | .strict => expected ':' afterHours
      | .relaxed => Except.ok (afterHours.dropWhile (fun c => c = ':' || Text.isBlank c))
    let (minutes, rest) <-
      match offsetDigits? beforeMinutes with
      | some (some tens, some ones, rest) =>
        if tens <= 5 then Except.ok (tens * 10 + ones, rest) else .error .outOfRange
      | some _ => .error .invalid
      | none => .error .tooShort
    let total : Int := Int.ofNat (hours * 60 + minutes)
    .ok (if negative then -total else total, rest)

/-- Refuse a number outside its range. -/
def checked (least most : Int) (value : Int) : Except ReadFault Unit :=
  if least <= value && value <= most then .ok () else .error .outOfRange

/-- A date and a time of day as they stand on a clock that runs `ahead` minutes ahead of
universal time. -/
structure Reading where
  date : Calendar.Date
  hour : Nat
  minute : Nat
  second : Nat
  nanosecond : Nat
  ahead : Int

/-- The instant of a date and time. A sixtieth second is a leap second. -/
def Reading.toInstant (reading : Reading) : Except ReadFault Instant :=
  let (second, nanosecond) :=
    if reading.second = 60 then (59, 1000000000 + reading.nanosecond)
    else (reading.second, reading.nanosecond)
  let ofDay := (reading.hour * 60 + reading.minute) * 60 + second
  if !reading.date.isValid then .error .outOfRange
  else
    match Instant.ofParts? reading.date.toDay ofDay nanosecond with
    | none => .error .outOfRange
    | some onClock =>
      if 1440 <= reading.ahead.natAbs then .error .outOfRange
      else
        match onClock.ahead? reading.ahead with
        | none => .error .impossible
        | some instant => .ok instant

/-- The instant that the strict form writes. -/
def strict (text : List Char) : Except ReadFault Instant := do
  let (year, text) <- fixedNumber 4 text
  let text <- expected '-' text
  let (month, text) <- fixedNumber 2 text
  checked 1 12 month
  let text <- expected '-' text
  let (day, text) <- fixedNumber 2 text
  checked 1 31 day
  let text <- separator text
  let (hour, text) <- fixedNumber 2 text
  checked 0 23 hour
  let text <- expected ':' text
  let (minute, text) <- fixedNumber 2 text
  checked 0 59 minute
  let text <- expected ':' text
  let (second, text) <- fixedNumber 2 text
  checked 0 60 second
  let (nanosecond, text) <- fraction text
  let (ahead, text) <- offset .strict text
  checked (-1439) 1439 ahead
  if !text.isEmpty then .error .trailing
  else Reading.toInstant ⟨⟨year, month, day⟩, hour, minute, second, nanosecond, ahead⟩

/-- A year: at most four digits, or any number of them after a sign. -/
def year (text : List Char) : Except ReadFault (Int × List Char) :=
  match Text.trimStart text with
  | '-' :: rest => do
    let (value, rest) <- number 1 none rest
    checked Int32.minValue.toInt Int32.maxValue.toInt (-(value : Int))
    .ok (-(value : Int), rest)
  | '+' :: rest => do
    let (value, rest) <- number 1 none rest
    checked Int32.minValue.toInt Int32.maxValue.toInt value
    .ok (value, rest)
  | rest => do
    let (value, rest) <- number 1 (some 4) rest
    .ok (value, rest)

/-- A number of one or two digits within a range, with white space in front. -/
def relaxedNumber (least most : Nat) (text : List Char) : Except ReadFault (Nat × List Char) := do
  let (value, rest) <- number 1 (some 2) (Text.trimStart text)
  checked least most value
  .ok (value, rest)

/-- Whether the letters UTC come next, in either case. -/
def universal? (text : List Char) : Option (List Char) :=
  match text with
  | u :: t :: c :: rest =>
    if (u = 'U' || u = 'u') && (t = 'T' || t = 't') && (c = 'C' || c = 'c') then some rest
    else none
  | _ => none

/-- The instant that the relaxed form writes. -/
def relaxed (text : List Char) : Except ReadFault Instant := do
  let (year, text) <- year text
  let text <- expected '-' (Text.trimStart text)
  let (month, text) <- relaxedNumber 1 12 text
  let text <- expected '-' (Text.trimStart text)
  let (day, text) <- relaxedNumber 1 31 text
  let text <- separator text
  let (hour, text) <- relaxedNumber 0 23 text
  let text <- expected ':' (Text.trimStart text)
  let (minute, text) <- relaxedNumber 0 59 text
  let text <- expected ':' (Text.trimStart text)
  let (second, text) <- relaxedNumber 0 60 text
  let (nanosecond, text) <- fraction text
  let text := Text.trimStart text
  let (ahead, text) <-
    match universal? text with
    | some rest => Except.ok (0, rest)
    | none => offset .relaxed text
  if !(Text.trimStart text).isEmpty then .error .trailing
  else Reading.toInstant ⟨⟨year, month, day⟩, hour, minute, second, nanosecond, ahead⟩

/-- The midnight of a date: a year, a month and a day with hyphens between them. -/
def midnight (text : List Char) : Except ReadFault Instant := do
  let (year, text) <- year text
  let text <- expected '-' text
  let (month, text) <- relaxedNumber 1 12 text
  let text <- expected '-' text
  let (day, text) <- relaxedNumber 1 31 text
  if !text.isEmpty then .error .trailing
  else Reading.toInstant ⟨⟨year, month, day⟩, 0, 0, 0, 0, 0⟩

/-- The instant that an authored operand names: a strict instant or a bare date, with any white
space around it. -/
def ofOperand? (text : String) : Option Instant :=
  let text := Text.trim text.toList
  match strict text with
  | .ok instant => some instant
  | .error _ => (midnight text).toOption

end Outreach.Time
