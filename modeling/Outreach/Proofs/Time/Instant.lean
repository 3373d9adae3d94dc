import Outreach.Proofs.Time.Written

/-!
# Later instants

A span of no time leads nowhere (`add?_zero`), and a span of a second or more always to a later
instant, even out of a leap second, which it does not count (`lt_of_add?`). Unless it leads past the
last day, a span that is not negative leads to an instant (`exists_add?`).
-/

namespace Outreach

/-- A number of seconds other than zero is a second or more. -/
theorem Span.second_le_ofSeconds32 {seconds : UInt32} (lasting : seconds ≠ 0) :
    1000000000 <= (Span.ofSeconds32 seconds).nanoseconds := by
  have positive : 0 < seconds.toNat :=
    Nat.pos_of_ne_zero (fun none => lasting (UInt32.toNat_inj.mp none))
  simp only [Span.ofSeconds32]
  omega

namespace Instant

variable {now later : Instant} {span : Span}

/-- The rank of an instant of parts. -/
theorem rank_of_ofParts? {day : Int} {second nanosecond : Nat}
    (reached : ofParts? day second nanosecond = some later) :
    later.rank = (day * 86400 + second) * 2000000000 + nanosecond := by
  unfold ofParts? at reached
  split at reached
  · cases reached
    rfl
  · cases reached

/-- A span of a second or more leads to a later instant. -/
theorem lt_of_add? (long : 1000000000 <= span.nanoseconds) (reached : now.add? span = some later) :
    now < later := by
  have nanosecond := now.nanosecond_lt
  unfold add? at reached
  extract_lets within counted total seconds at reached
  split at reached
  · -- The leap second is over by then.
    rename_i stays
    simp only [isLeap, within, Bool.and_eq_true, decide_eq_true_eq] at stays
    omega
  · have rank := rank_of_ofParts? reached
    have fraction : counted = now.nanosecond + span.nanoseconds ∧ now.nanosecond < 1000000000 ∨
        counted = now.nanosecond + span.nanoseconds - 1000000000 ∧ 1000000000 <= now.nanosecond := by
      unfold counted within
      by_cases leap : 1000000000 <= now.nanosecond
      · have positive : 0 < span.nanoseconds := by omega
        simp [isLeap, leap, positive]
      · simp [isLeap, leap, Nat.lt_of_not_le leap]
    have onward : (now.second : Int) + 1 <= seconds := by
      unfold seconds total
      omega
    have whole : (now.day + seconds / 86400) * 86400 + ((seconds % 86400).toNat : Int) =
        now.day * 86400 + seconds := by omega
    change now.rank < later.rank
    rw [rank, whole, Instant.rank]
    omega

/-- There is an instant of every day that has a date. -/
theorem exists_ofParts? {day : Int} {second nanosecond : Nat}
    (dated : firstDay <= day ∧ day <= lastDay) (inDay : second < 86400)
    (inSecond : nanosecond < 1000000000) :
    ∃ instant, ofParts? day second nanosecond = some instant :=
  ⟨_, dif_pos ⟨dated, inDay, .inl inSecond⟩⟩

/-- A span that is not negative leads to an instant if there is a day left after the whole days that
it has. -/
theorem exists_add? (forward : 0 <= span.nanoseconds)
    (dated : now.day + span.nanoseconds / 86400000000000 + 1 <= lastDay) :
    ∃ later, now.add? span = some later := by
  have first := now.day_inRange.1
  have second := now.second_lt
  have nanosecond := now.nanosecond_lt
  unfold add?
  extract_lets within counted total seconds
  split
  · -- The leap second is not over yet.
    rename_i stays
    simp only [isLeap, within, Bool.and_eq_true, decide_eq_true_eq] at stays
    refine ⟨_, dif_pos ⟨now.day_inRange, second, ?_⟩⟩
    omega
  · rename_i moves
    have fraction : 0 <= counted ∧ counted < 1000000000 + span.nanoseconds := by
      unfold counted
      by_cases leap : 1000000000 <= now.nanosecond
      · have lasting : 1000000000 <= within - 1000000000 := by
          simp [isLeap, leap] at moves
          omega
        have positive : 0 < span.nanoseconds := by omega
        simp only [isLeap, leap, positive, decide_true, Bool.and_self, if_true]
        omega
      · simp only [isLeap, leap, decide_false, Bool.false_and, Bool.false_eq_true, if_false]
        omega
    have onward : 0 <= seconds / 86400 ∧ seconds / 86400 <= span.nanoseconds / 86400000000000 + 1 := by
      unfold seconds total
      omega
    exact exists_ofParts? (by omega) (by omega) (by omega)

/-- A span of no time leads nowhere. -/
theorem add?_zero (now : Instant) (none : span.nanoseconds = 0) : now.add? span = some now := by
  have second := now.second_lt
  have nanosecond := now.nanosecond_lt
  unfold add?
  extract_lets within counted total seconds
  have same : within = now.nanosecond := by
    unfold within
    omega
  split
  · rw [same, Int.toNat_natCast, Time.ofParts?_parts]
  · rename_i moves
    have brief : now.nanosecond < 1000000000 := by
      simp [isLeap, same, none] at moves
      omega
    have unchanged : counted = now.nanosecond := by simp [counted, none, same]
    have isSecond : seconds = now.second := by
      unfold seconds total
      omega
    have day : now.day + seconds / 86400 = now.day := by omega
    have inDay : (seconds % 86400).toNat = now.second := by omega
    have rest : (total % 1000000000).toNat = now.nanosecond := by
      unfold total
      omega
    rw [day, inDay, rest, Time.ofParts?_parts]

end Instant

end Outreach
