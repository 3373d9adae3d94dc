import Outreach.Time.Calendar
import Outreach.Time.Span

/-!
# Instants

Instants of universal time between the years -262143 and 262142. A leap second is written as a
59th second whose nanoseconds go on past a full second.
-/

namespace Outreach

/-- The first day that has a date: the first of January -262143. -/
def Instant.firstDay : Int := -96465292

/-- The last day that has a date: the last of December 262142. -/
def Instant.lastDay : Int := 95026236

theorem Instant.firstDay_eq : Instant.firstDay = (⟨-262143, 1, 1⟩ : Calendar.Date).toDay := by
  decide

theorem Instant.lastDay_eq : Instant.lastDay = (⟨262142, 12, 31⟩ : Calendar.Date).toDay := by
  decide

/-- An instant of universal time. -/
structure Instant where
  /-- The day, counted from the first of January 1970. -/
  day : Int
  /-- The second of the day. -/
  second : Nat
  /-- The nanosecond of the second; a billion and more within a leap second. -/
  nanosecond : Nat
  /-- The day has a date. -/
  day_inRange : Instant.firstDay <= day ∧ day <= Instant.lastDay
  /-- A day has 86400 seconds. -/
  second_lt : second < 86400
  /-- A leap second follows the last second of a minute. -/
  nanosecond_lt : nanosecond < 1000000000 ∨ (nanosecond < 2000000000 ∧ second % 60 = 59)
deriving DecidableEq

namespace Instant

/-- The instant of a day, a second of it and a nanosecond of that, if there is such. -/
def ofParts? (day : Int) (second nanosecond : Nat) : Option Instant :=
  if valid : (firstDay <= day ∧ day <= lastDay) ∧ second < 86400 ∧
      (nanosecond < 1000000000 ∨ (nanosecond < 2000000000 ∧ second % 60 = 59)) then
    some ⟨day, second, nanosecond, valid.1, valid.2.1, valid.2.2⟩
  else none

/-- Midnight at the start of 1970. -/
def epoch : Instant := ⟨0, 0, 0, by decide, by decide, by decide⟩

instance : Inhabited Instant := ⟨epoch⟩

/-- The place of an instant among all instants; a leap second comes before the next second. -/
def rank (instant : Instant) : Int :=
  (instant.day * 86400 + instant.second) * 2000000000 + instant.nanosecond

instance : LT Instant := ⟨fun left right => left.rank < right.rank⟩

instance : LE Instant := ⟨fun left right => left.rank <= right.rank⟩

instance : DecidableLT Instant := fun left right => Int.decLt left.rank right.rank

instance : DecidableLE Instant := fun left right => Int.decLe left.rank right.rank

/-- The later of two instants. -/
def later (left right : Instant) : Instant := if left <= right then right else left

/-- Whether an instant lies in a leap second. -/
def isLeap (instant : Instant) : Bool := 1000000000 <= instant.nanosecond

/-- The instant a span later, if it has a date. A span that leads out of a leap second, forward
or back, does not count the leap second. -/
def add? (instant : Instant) (span : Span) : Option Instant :=
  let reached : Int := instant.nanosecond + span.nanoseconds
  if instant.isLeap && -1000000000 < span.nanoseconds && reached < 2000000000 then
    ofParts? instant.day instant.second reached.toNat
  else
    let reached := if instant.isLeap && 0 < span.nanoseconds then reached - 1000000000 else reached
    let total := instant.second * 1000000000 + reached
    let seconds := total / 1000000000
    ofParts? (instant.day + seconds / 86400) (seconds % 86400).toNat (total % 1000000000).toNat

/-- The instant a span earlier, if it has a date. -/
def sub? (instant : Instant) (span : Span) : Option Instant := instant.add? span.neg

/-- The same reading of a clock that runs `minutes` ahead of universal time, if universal time
has a date then. -/
def ahead? (instant : Instant) (minutes : Int) : Option Instant :=
  let seconds := instant.second - minutes * 60
  ofParts? (instant.day + seconds / 86400) (seconds % 86400).toNat instant.nanosecond

end Instant

end Outreach
