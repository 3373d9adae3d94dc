import Outreach.Text.Blank
import Outreach.Text.Digits
import Outreach.Time.Span

/-!
# Offsets

The authored delay of a deferred action: hours and minutes of a clock, with optional days in
front and optional seconds behind, `[d.]hh:mm[:ss]`.
-/

namespace Outreach.Offset

/-- The whole number that a component of an offset writes; it has to fit 64 bits. -/
def component? (text : List Char) : Option Int := (Digits.toInt64? text).map Int64.toInt

/-- The days in front of the first point, and the clock after it. -/
def splitDays? (text : List Char) : Option (Int × List Char) :=
  match text.dropWhile (· ≠ '.') with
  | [] => some (0, text)
  | _ :: clock => (component? (text.takeWhile (· ≠ '.'))).map (fun days => (days, clock))

/-- The hours, minutes and seconds of a clock. -/
def clock? (text : List Char) : Option (Int × Int × Int) :=
  match text.splitOn ':' with
  | [hours, minutes] => do return (<- component? hours, <- component? minutes, 0)
  | [hours, minutes, seconds] => do
    return (<- component? hours, <- component? minutes, <- component? seconds)
  | _ => none

/-- The span that an offset writes. Days are not negative, and the clock stays below 24 hours, 60
minutes and 60 seconds. -/
def read? (text : String) : Option Span := do
  let (days, clock) <- splitDays? (Text.trim text.toList)
  let (hours, minutes, seconds) <- clock? clock
  if 0 <= days && 0 <= hours && hours < 24 && 0 <= minutes && minutes < 60 && 0 <= seconds &&
      seconds < 60 then
    Span.ofSeconds? (days * 86400 + hours * 3600 + minutes * 60 + seconds)
  else none

end Outreach.Offset
