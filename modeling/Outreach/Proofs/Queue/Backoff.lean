import Outreach.Proofs.Queue.Treatment
import Outreach.Proofs.Time.Calendar
import Outreach.Proofs.Time.Instant

/-!
# Delays that double

The delay before the next delivery is the base delay times a power of two, until the factor has
reached the greatest word of 32 bits (`factor_eq`). It is counted exactly or not at all
(`afterAttempts?_eq_some_iff`). Between a delay and the instant of the next delivery there are three
bounds: those of what can be counted, of spans and of dates. A base delay of half a minute at most
keeps all of them, unless the dates come to an end within some four thousand years (`backed_off`).
-/

namespace Outreach.Delay

/-- The usual base delay, in nanoseconds. -/
def halfMinute : Nat := 30000000000

section Factor

variable {attempts : Nat}

/-- The factor is a power of two that is cut off at the greatest word of 32 bits. -/
theorem factor_eq (attempts : Nat) :
    factor attempts = min (2 ^ (max attempts 1 - 1)) (2 ^ 32 - 1) := by
  have exponent : max attempts 1 - 1 = attempts - 1 := by omega
  rw [factor, exponent]
  split
  · have within : 2 ^ (attempts - 1) <= 2 ^ 31 := Nat.pow_le_pow_right (by decide) (by omega)
    exact (Nat.min_eq_left (Nat.le_trans within (by decide))).symm
  · have beyond : 2 ^ 32 <= 2 ^ (attempts - 1) := Nat.pow_le_pow_right (by decide) (by omega)
    exact (Nat.min_eq_right (Nat.le_trans (by decide) beyond)).symm

theorem factor_le (attempts : Nat) : factor attempts <= 2 ^ 32 - 1 := by
  rw [factor_eq]
  exact Nat.min_le_right _ _

/-- The factor does not get smaller. -/
theorem factor_mono {fewer : Nat} (atLeast : fewer <= attempts) :
    factor fewer <= factor attempts := by
  have exponents : max fewer 1 - 1 <= max attempts 1 - 1 := by omega
  have powers : 2 ^ (max fewer 1 - 1) <= 2 ^ (max attempts 1 - 1) :=
    Nat.pow_le_pow_right (by decide) exponents
  rw [factor_eq, factor_eq]
  omega

/-- The factor doubles from the first failed delivery to the 32nd. -/
theorem factor_add_one (first : 1 <= attempts) (last : attempts < 32) :
    factor (attempts + 1) = 2 * factor attempts := by
  have power : 2 ^ attempts = 2 * 2 ^ (attempts - 1) := by
    rw [← Nat.pow_add_one', Nat.sub_add_cancel first]
  rw [factor, factor, Nat.add_sub_cancel, if_pos last, if_pos (by omega)]
  exact power

end Factor

section Counted

variable {base delay : Nat} {attempts fewer : UInt32}

theorem afterAttempts?_eq_some_iff :
    afterAttempts? base attempts = some delay ↔
      delay = base * factor attempts.toNat ∧ base * factor attempts.toNat < limit := by
  unfold afterAttempts?
  dsimp only
  split
  · rename_i short
    simp [short, eq_comm]
  · rename_i long
    simp [long]

theorem afterAttempts?_eq_none_iff :
    afterAttempts? base attempts = none ↔ limit <= base * factor attempts.toNat := by
  unfold afterAttempts?
  dsimp only
  split <;> simp <;> omega

/-- If a delay can be counted, so can those after fewer failed deliveries, and they are not longer. -/
theorem afterAttempts?_mono (atLeast : fewer <= attempts)
    (counted : afterAttempts? base attempts = some delay) :
    ∃ shorter, afterAttempts? base fewer = some shorter ∧ shorter <= delay := by
  obtain ⟨rfl, short⟩ := afterAttempts?_eq_some_iff.mp counted
  have grows : base * factor fewer.toNat <= base * factor attempts.toNat :=
    Nat.mul_le_mul_left base (factor_mono (UInt32.le_iff_toNat_le.mp atLeast))
  exact ⟨_, afterAttempts?_eq_some_iff.mpr ⟨rfl, Nat.lt_of_le_of_lt grows short⟩, grows⟩

/-- From the first failed delivery to the 32nd a delay is twice the one before it. -/
theorem afterAttempts?_add_one (first : 1 <= attempts) (last : attempts < 32)
    (counted : afterAttempts? base (attempts + 1) = some delay) :
    ∃ half, afterAttempts? base attempts = some half ∧ delay = 2 * half := by
  have least : 1 <= attempts.toNat := UInt32.le_iff_toNat_le.mp first
  have most : attempts.toNat < 32 := UInt32.lt_iff_toNat_lt.mp last
  have number : (attempts + 1).toNat = attempts.toNat + 1 := by
    rw [UInt32.toNat_add, show (1 : UInt32).toNat = 1 from rfl]
    omega
  obtain ⟨rfl, short⟩ := afterAttempts?_eq_some_iff.mp counted
  rw [number, factor_add_one least most, Nat.mul_left_comm] at short ⊢
  exact ⟨_, afterAttempts?_eq_some_iff.mpr ⟨rfl, by omega⟩, rfl⟩

end Counted

section Usual

variable {base : Nat} (usual : base <= halfMinute)

include usual

/-- A delay is a span of time, and it is shorter than 1491309 days. -/
theorem span_of_usual (attempts : UInt32) :
    ∃ (delay : Nat) (span : Span), afterAttempts? base attempts = some delay ∧
      Span.ofNanoseconds? delay = some span ∧ toSpan delay = span ∧ 0 <= span.nanoseconds ∧
      span.nanoseconds < 1491309 * 86400000000000 := by
  have bound : base * factor attempts.toNat < 1491309 * 86400000000000 :=
    calc
      base * factor attempts.toNat <= halfMinute * (2 ^ 32 - 1) :=
        Nat.mul_le_mul usual (factor_le attempts.toNat)
      _ < 1491309 * 86400000000000 := by decide
  have counted : afterAttempts? base attempts = some (base * factor attempts.toNat) :=
    afterAttempts?_eq_some_iff.mpr ⟨rfl, Nat.lt_trans bound (by decide)⟩
  generalize base * factor attempts.toNat = delay at bound counted
  have inRange : -Span.bound <= (delay : Int) ∧ (delay : Int) <= Span.bound := by
    unfold Span.bound
    omega
  have short : Span.ofNanoseconds? delay = some ⟨delay, inRange⟩ := dif_pos inRange
  have exact : toSpan delay = ⟨delay, inRange⟩ := by rw [toSpan, short, Option.getD_some]
  exact ⟨delay, _, counted, short, exact, Int.natCast_nonneg delay, by dsimp only; omega⟩

end Usual

/-- Before the year 258000 there are more than 1491309 days left that have a date. -/
theorem day_le_of_year_lt {now : Instant} (early : (Calendar.Date.ofDay now.day).year < 258000) :
    now.day + 1491309 <= Instant.lastDay := by
  have era := Calendar.Date.era_le_year_ofDay now.day
  unfold Instant.lastDay
  omega

/-- A delay is the base delay times a power of two that is cut off at the greatest 32-bit word, and it
cannot be counted exactly if that product is out of range. Delays do not get shorter with the number of
failed deliveries, and from the first to the 32nd each is twice the one before it. With a base delay of
half a minute at most every delay can be counted and is the span of time that it is counted as, and
before the year 258000 it leads to an instant, at which a worker with that base delay has the job
delivered again. -/
theorem backed_off (base : Nat) :
    (forall attempts : UInt32,
      let product := base * min (2 ^ (max attempts.toNat 1 - 1)) (2 ^ 32 - 1)
      (afterAttempts? base attempts = none ↔ limit <= product) ∧
      (product < limit -> afterAttempts? base attempts = some product)) ∧
    (forall (fewer attempts : UInt32) (delay : Nat), fewer <= attempts ->
      afterAttempts? base attempts = some delay ->
        ∃ shorter, afterAttempts? base fewer = some shorter ∧ shorter <= delay) ∧
    (forall (attempts : UInt32) (delay : Nat), 1 <= attempts -> attempts < 32 ->
      afterAttempts? base (attempts + 1) = some delay ->
        ∃ half, afterAttempts? base attempts = some half ∧ delay = 2 * half) ∧
    (base <= halfMinute -> forall attempts : UInt32,
      ∃ (delay : Nat) (span : Span), afterAttempts? base attempts = some delay ∧
        Span.ofNanoseconds? delay = some span ∧ toSpan delay = span ∧
        forall now : Instant, (Calendar.Date.ofDay now.day).year < 258000 ->
          ∃ later, now.add? span = some later ∧
            forall {σ : Type} (worker : Worker σ) (job : Job), worker.retryBase = base ->
              job.attempts = attempts -> worker.retryAt? job now = some later) := by
  refine ⟨fun attempts => ?_, fun _ _ _ => afterAttempts?_mono, fun _ _ => afterAttempts?_add_one,
    fun usual attempts => ?_⟩
  · rw [← factor_eq]
    exact ⟨afterAttempts?_eq_none_iff, fun short => afterAttempts?_eq_some_iff.mpr ⟨rfl, short⟩⟩
  · obtain ⟨delay, span, counted, short, exact, forward, bound⟩ := span_of_usual usual attempts
    refine ⟨delay, span, counted, short, exact, fun now early => ?_⟩
    have days := day_le_of_year_lt early
    obtain ⟨later, added⟩ : ∃ later, now.add? span = some later :=
      Instant.exists_add? forward (by omega)
    refine ⟨later, added, fun worker job isBase isAttempts => ?_⟩
    rw [Worker.retryAt?, isBase, isAttempts, counted, Option.bind_some, exact]
    exact added

/-- The last instant before the year 257999 ends, in a leap second. -/
def lateInstant : Instant :=
  ⟨93513036, 86399, 1999999999, by decide, Nat.lt_add_one _, by decide⟩

/-- With the usual base delay the delays still double at the 32nd failed delivery, and the longest one
leads to a date from the last instant of the year 257999. -/
theorem backed_off_late :
    (Calendar.Date.ofDay lateInstant.day).year = 257999 ∧
      ∃ (shorter half delay : Nat) (span : Span) (later : Instant),
        afterAttempts? halfMinute 1 = some shorter ∧ afterAttempts? halfMinute 31 = some half ∧
        afterAttempts? halfMinute 32 = some (2 * half) ∧ shorter <= half ∧
        afterAttempts? halfMinute 4294967295 = some delay ∧ toSpan delay = span ∧
        lateInstant.add? span = some later := by
  have year : (Calendar.Date.ofDay lateInstant.day).year = 257999 := by decide
  obtain ⟨exact, grows, doubles, usual⟩ := backed_off halfMinute
  have counted : afterAttempts? halfMinute (31 + 1) = some _ := (exact 32).2 (by decide)
  obtain ⟨half, isHalf, twice⟩ := doubles 31 _ (by decide) (by decide) counted
  obtain ⟨shorter, isShorter, below⟩ := grows 1 31 half (by decide) isHalf
  obtain ⟨delay, span, isDelay, -, isSpan, leads⟩ := usual (Nat.le_refl _) 4294967295
  obtain ⟨later, added, -⟩ := leads lateInstant (by rw [year]; decide)
  rw [twice] at counted
  exact ⟨year, shorter, half, delay, span, later, isShorter, isHalf, counted, below, isDelay, isSpan,
    added⟩

end Outreach.Delay
