import Outreach.Text.Digits
import Outreach.Time.Instant

/-!
# Written instants

An instant as a text of RFC 3339 in universal time. The fraction of a second has none, three,
six or nine digits, the fewest that are exact; a year outside 0 to 9999 carries its sign.
-/

namespace Outreach.Instant

/-- A year: four digits, or a sign and at least four. -/
def yearText (year : Int) : List Char :=
  if 0 <= year && year <= 9999 then Digits.padded 4 year.toNat
  else (if year < 0 then '-' else '+') :: Digits.padded 4 year.natAbs

/-- The fraction of a second. -/
def fractionText (nanosecond : Nat) : List Char :=
  if nanosecond = 0 then []
  else if nanosecond % 1000000 = 0 then '.' :: Digits.padded 3 (nanosecond / 1000000)
  else if nanosecond % 1000 = 0 then '.' :: Digits.padded 6 (nanosecond / 1000)
  else '.' :: Digits.padded 9 nanosecond

/-- The time of day. Within a leap second the second is the sixtieth. -/
def timeText (second nanosecond : Nat) : List Char :=
  let leap := 1000000000 <= nanosecond
  let shown := second % 60 + (if leap then 1 else 0)
  Digits.padded 2 (second / 3600) ++ ':' :: Digits.padded 2 (second / 60 % 60) ++
    ':' :: Digits.padded 2 shown ++
    fractionText (if leap then nanosecond - 1000000000 else nanosecond)

/-- The text of an instant. -/
def chars (instant : Instant) : List Char :=
  let date := Calendar.Date.ofDay instant.day
  yearText date.year ++ '-' :: Digits.padded 2 date.month ++ '-' :: Digits.padded 2 date.day ++
    'T' :: timeText instant.second instant.nanosecond ++ ['Z']

/-- The text of an instant as a string. -/
def text (instant : Instant) : String := String.ofList instant.chars

end Outreach.Instant
