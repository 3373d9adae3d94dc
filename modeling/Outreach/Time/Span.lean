/-!
# Spans of time

The signed distance between two instants, exact to the nanosecond and bounded by the
milliseconds that a signed 64-bit word can count.
-/

namespace Outreach

/-- The greatest span in nanoseconds. -/
def Span.bound : Int := 9223372036854775807 * 1000000

/-- A signed span of time. -/
structure Span where
  /-- The length in nanoseconds. -/
  nanoseconds : Int
  /-- The length is within the bound on both sides. -/
  inRange : -Span.bound <= nanoseconds ∧ nanoseconds <= Span.bound
deriving DecidableEq

namespace Span

/-- The span of a number of nanoseconds, when it is within the bound. -/
def ofNanoseconds? (nanoseconds : Int) : Option Span :=
  if inRange : -bound <= nanoseconds ∧ nanoseconds <= bound then some ⟨nanoseconds, inRange⟩
  else none

/-- The span of a number of seconds, when it is within the bound. -/
def ofSeconds? (seconds : Int) : Option Span := ofNanoseconds? (seconds * 1000000000)

/-- No time at all. -/
def zero : Span := ⟨0, by decide⟩

instance : Inhabited Span := ⟨zero⟩

/-- The span of a number of seconds that fits 32 bits. -/
def ofSeconds32 (seconds : UInt32) : Span :=
  ⟨seconds.toNat * 1000000000, by
    have := seconds.toNat_lt
    simp only [bound]
    omega⟩

/-- The span of some days, at most ten million. -/
def ofDays (days : Nat) (few : days <= 10000000 := by decide) : Span :=
  ⟨days * 86400000000000, by simp only [bound]; omega⟩

/-- The span in whole seconds, a fraction cut off. -/
def wholeSeconds (span : Span) : Int := Int.tdiv span.nanoseconds 1000000000

/-- The span in the opposite direction. -/
def neg (span : Span) : Span :=
  ⟨-span.nanoseconds, by have := span.inRange; omega⟩

end Span

end Outreach
