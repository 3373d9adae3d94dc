import Outreach.Time.Instant

/-!
# Delays and leases

How long a failed job waits, and which deliveries have been under way for too long. Delays are
counted in nanoseconds; the seconds of a delay fit 64 bits.
-/

namespace Outreach.Delay

/-- Delays are shorter than this many nanoseconds. -/
def limit : Nat := UInt64.size * 1000000000

/-- What the base delay is multiplied with after a number of failed deliveries: it doubles with
every delivery after the first, up to the greatest 32-bit word. -/
def factor (attempts : Nat) : Nat :=
  if attempts - 1 < 32 then Nat.pow 2 (attempts - 1) else UInt32.size - 1

/-- The delay before the next delivery after a number of failed ones; `none` if it is too long to
be counted. -/
def afterAttempts? (base : Nat) (attempts : UInt32) : Option Nat :=
  let delay := base * factor attempts.toNat
  if delay < limit then some delay else none

/-- A delay as a span of time; one that is too long for a span counts as half a minute. -/
def toSpan (delay : Nat) : Span := (Span.ofNanoseconds? delay).getD (Span.ofSeconds32 30)

/-- Deliveries that began at this instant or before have been under way for longer than the
lease. `none` if the lease reaches back past all dates, so that none has. -/
def leaseCutoff? (now : Instant) (lease : Nat) : Option Instant :=
  (Span.ofNanoseconds? lease).bind now.sub?

end Outreach.Delay
