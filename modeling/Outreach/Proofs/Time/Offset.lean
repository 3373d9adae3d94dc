import Mathlib.Data.List.TakeWhile
import Outreach.Configuration
import Outreach.Proofs.Text.Digits

/-!
# Written offsets

Which texts are offsets, and what they say. An offset is of the form `[d.]hh:mm[:ss]` with white space
around it (`Form`), and its components are written in digits; but they may have signs as well, a plus
or, in front of zero, a minus (`read?_eq_some_iff`). Without signs they are numerals.
-/

namespace Outreach

/-- A span of some seconds is one of a billion times as many nanoseconds. -/
theorem Span.ofSeconds?_eq_some_iff {seconds : Int} {span : Span} :
    Span.ofSeconds? seconds = some span ↔ span.nanoseconds = seconds * 1000000000 := by
  unfold ofSeconds? ofNanoseconds?
  constructor
  · intro made
    split at made
    · cases made
      rfl
    · cases made
  · intro same
    have inside := same ▸ span.inRange
    rw [dif_pos inside]
    congr 1
    cases span
    cases same
    rfl

namespace Offset

open Digits (Signed Plain)

/-- What a text in front of a clock says: some days and a point, or nothing. -/
inductive Days (Writes : List Char -> Int -> Prop) : List Char -> Int -> Prop where
  | none : Days Writes [] 0
  | written {text : List Char} {days : Int} (writes : Writes text days) :
    Days Writes (text ++ ['.']) days

/-- What a text behind hours and minutes says: a colon and some seconds, or nothing. -/
inductive Seconds (Writes : List Char -> Int -> Prop) : List Char -> Int -> Prop where
  | none : Seconds Writes [] 0
  | written {text : List Char} {seconds : Int} (writes : Writes text seconds) :
    Seconds Writes (':' :: text) seconds

/-- A text is of the form `[d.]hh:mm[:ss]`, with components as `Writes` says, and comes to a number of
seconds. -/
inductive Form (Writes : List Char -> Int -> Prop) : List Char -> Int -> Prop where
  | clock {front hh mm back : List Char} {days hours minutes seconds : Int}
      (writesDays : Days Writes front days) (writesHours : Writes hh hours)
      (writesMinutes : Writes mm minutes) (writesSeconds : Seconds Writes back seconds)
      (daysIn : 0 <= days) (hoursIn : 0 <= hours ∧ hours < 24)
      (minutesIn : 0 <= minutes ∧ minutes < 60) (secondsIn : 0 <= seconds ∧ seconds < 60) :
    Form Writes (front ++ hh ++ ':' :: mm ++ back)
      (days * 86400 + hours * 3600 + minutes * 60 + seconds)

theorem signed_mem {text : List Char} {n : Int} (signed : Signed text n) :
    ∀ c ∈ text, Digits.isDigit c = true ∨ c = '+' ∨ c = '-' := by
  cases signed with
  | numeral isNumeral => exact fun c member => .inl (isNumeral.2 c member)
  | plus isNumeral =>
    exact List.forall_mem_cons.mpr ⟨.inr (.inl rfl), fun c member => .inl (isNumeral.2 c member)⟩
  | minus isNumeral =>
    exact List.forall_mem_cons.mpr ⟨.inr (.inr rfl), fun c member => .inl (isNumeral.2 c member)⟩

theorem point_notMem {text : List Char} {n : Int} (signed : Signed text n) : '.' ∉ text := fun member =>
  absurd (signed_mem signed '.' member) (by decide)

theorem colon_notMem {text : List Char} {n : Int} (signed : Signed text n) : ':' ∉ text := fun member =>
  absurd (signed_mem signed ':' member) (by decide)

/-- A component is a whole number of 64 bits. -/
theorem component?_eq_some_iff {text : List Char} {n : Int} :
    component? text = some n ↔ Signed text n ∧ -2 ^ 63 <= n ∧ n < 2 ^ 63 := by
  have word (n : Int) : Digits.toWord? n =
      if -2 ^ 63 <= n ∧ n < 2 ^ 63 then some (Int64.ofInt n) else none := by
    have upper : n <= 2 ^ 63 - 1 ↔ n < 2 ^ 63 := Int.le_sub_one_iff
    simp only [Digits.toWord?, Int64.toInt_minValue, Int64.toInt_maxValue, upper, Bool.and_eq_true,
      decide_eq_true_eq]
  unfold component? Digits.toInt64?
  constructor
  · intro read
    obtain ⟨word', isWord, rfl⟩ := Option.map_eq_some_iff.mp read
    obtain ⟨m, isInt, fits⟩ := Option.bind_eq_some_iff.mp isWord
    rw [word] at fits
    split at fits
    · rename_i inside
      cases fits
      rw [Int64.toInt_ofInt_of_le inside.1 inside.2]
      exact ⟨Digits.toInt?_eq_some_iff.mp isInt, inside⟩
    · cases fits
  · rintro ⟨signed, inside⟩
    rw [Digits.toInt?_eq_some_iff.mpr signed, Option.bind_some, word, if_pos inside, Option.map_some,
      Int64.toInt_ofInt_of_le inside.1 inside.2]

/-- What a component writes as it is read. -/
def Component (text : List Char) (n : Int) : Prop := component? text = some n

theorem Component.signed {text : List Char} {n : Int} (component : Component text n) :
    Signed text n := (component?_eq_some_iff.mp component).1

/-- Days are split off at the first point. -/
theorem splitDays?_eq_some_iff {text clock : List Char} {days : Int} :
    splitDays? text = some (days, clock) ↔
      ∃ front, text = front ++ clock ∧ Days Component front days ∧ (front = [] -> '.' ∉ clock) := by
  constructor
  · intro read
    unfold splitDays? at read
    split at read
    · rename_i none
      cases read
      refine ⟨[], rfl, .none, fun _ member => ?_⟩
      exact absurd (List.dropWhile_eq_nil_iff.mp none '.' member) (by decide)
    · rename_i c clock' split
      obtain ⟨days', isDays, same⟩ := Option.map_eq_some_iff.mp read
      cases same
      have stops := List.head?_dropWhile_not (fun c => decide (c ≠ '.')) text
      rw [split] at stops
      have isPoint : c = '.' := by simpa using stops
      refine ⟨text.takeWhile (· ≠ '.') ++ ['.'], ?_, .written isDays, fun none => ?_⟩
      · have parts := List.takeWhile_append_dropWhile (p := fun c => decide (c ≠ '.')) (l := text)
        rw [split, isPoint] at parts
        rw [List.append_assoc]
        exact parts.symm
      · exact absurd none (List.append_ne_nil_of_right_ne_nil _ (List.cons_ne_nil _ _))
  · rintro ⟨front, rfl, said, pointless⟩
    unfold splitDays?
    cases said with
    | none =>
      have none : clock.dropWhile (· ≠ '.') = [] := List.dropWhile_eq_nil_iff.mpr (fun c member =>
        decide_eq_true (fun isPoint => pointless rfl (isPoint ▸ member)))
      rw [List.nil_append, none]
    | @written text days writes =>
      have before : ∀ c ∈ text, decide (c ≠ '.') = true := fun c member =>
        decide_eq_true (fun isPoint => point_notMem writes.signed (isPoint ▸ member))
      have isDays : component? text = some days := writes
      rw [List.append_assoc, List.takeWhile_append_of_pos before, List.dropWhile_append_of_pos before]
      simp [isDays]

/-- A clock is split at its colons. -/
theorem clock?_eq_some_iff {text : List Char} {hours minutes seconds : Int} :
    clock? text = some (hours, minutes, seconds) ↔
      ∃ hh mm back, text = hh ++ ':' :: mm ++ back ∧ Component hh hours ∧ Component mm minutes ∧
        Seconds Component back seconds := by
  constructor
  · intro read
    have joined : [':'].intercalate (text.splitOn ':') = text := List.intercalate_splitOn ':'
    unfold clock? at read
    split at read
    · rename_i hh mm parts
      rw [parts] at joined
      simp only [Option.bind_eq_bind, Option.bind_eq_some_iff, Option.pure_def, Option.some.injEq,
        Prod.mk.injEq] at read
      obtain ⟨_, isHours, _, isMinutes, rfl, rfl, rfl⟩ := read
      exact ⟨hh, mm, [], by simpa [List.intercalate] using joined.symm, isHours, isMinutes, .none⟩
    · rename_i hh mm ss parts
      rw [parts] at joined
      simp only [Option.bind_eq_bind, Option.bind_eq_some_iff, Option.pure_def, Option.some.injEq,
        Prod.mk.injEq] at read
      obtain ⟨_, isHours, _, isMinutes, _, isSeconds, rfl, rfl, rfl⟩ := read
      exact ⟨hh, mm, ':' :: ss, by simpa [List.intercalate] using joined.symm, isHours, isMinutes,
        .written isSeconds⟩
    · cases read
  · rintro ⟨hh, mm, back, rfl, isHours, isMinutes, said⟩
    have isHours' : component? hh = some hours := isHours
    have isMinutes' : component? mm = some minutes := isMinutes
    have hhColon := colon_notMem isHours.signed
    have mmColon := colon_notMem isMinutes.signed
    cases said with
    | none =>
      have parts : ([':'].intercalate [hh, mm]).splitOn ':' = [hh, mm] :=
        List.splitOn_intercalate ':' (by simp [hhColon, mmColon]) (List.cons_ne_nil _ _)
      have whole : hh ++ ':' :: mm ++ [] = [':'].intercalate [hh, mm] := by simp [List.intercalate]
      rw [clock?, whole, parts]
      simp [isHours', isMinutes']
    | @written ss seconds writes =>
      have isSeconds : component? ss = some seconds := writes
      have ssColon := colon_notMem writes.signed
      have parts : ([':'].intercalate [hh, mm, ss]).splitOn ':' = [hh, mm, ss] :=
        List.splitOn_intercalate ':' (by simp [hhColon, mmColon, ssColon]) (List.cons_ne_nil _ _)
      have whole : hh ++ ':' :: mm ++ ':' :: ss = [':'].intercalate [hh, mm, ss] := by
        simp [List.intercalate]
      rw [clock?, whole, parts]
      simp [isHours', isMinutes', isSeconds]

section Forms

variable {Writes Writes' : List Char -> Int -> Prop} {text : List Char} {total : Int}

theorem Form.total_nonneg (form : Form Writes text total) : 0 <= total := by
  cases form
  omega

/-- What a component says is part of what the whole text says. -/
theorem Form.imp (change : forall part n, part ⊆ text -> 0 <= n -> n <= total ->
    Writes part n -> Writes' part n) (form : Form Writes text total) : Form Writes' text total := by
  cases form with
  | @clock front hh mm back days hours minutes seconds writesDays writesHours writesMinutes
      writesSeconds daysIn hoursIn minutesIn secondsIn =>
    have hhPart : hh ⊆ front ++ hh ++ ':' :: mm ++ back := by
      intro c member
      simp [member]
    have mmPart : mm ⊆ front ++ hh ++ ':' :: mm ++ back := by
      intro c member
      simp [member]
    refine .clock ?_ (change hh hours hhPart hoursIn.1 (by omega) writesHours)
      (change mm minutes mmPart minutesIn.1 (by omega) writesMinutes) ?_ daysIn hoursIn minutesIn
      secondsIn
    · cases writesDays with
      | none => exact .none
      | @written part days writes =>
        refine .written (change part days (fun c member => ?_) daysIn (by omega) writes)
        simp [member]
    · cases writesSeconds with
      | none => exact .none
      | @written part seconds writes =>
        refine .written (change part seconds (fun c member => ?_) secondsIn.1 (by omega) writes)
        simp [member]

/-- The components of a text without signs are numerals. -/
theorem form_signed_iff (plus : '+' ∉ text) (minus : '-' ∉ text) :
    Form Signed text total ↔ Form Plain text total := by
  constructor
  · refine Form.imp (fun part n inside _ _ signed => ?_)
    cases signed with
    | numeral isNumeral => exact .numeral isNumeral
    | plus isNumeral => exact absurd (inside List.mem_cons_self) plus
    | minus isNumeral => exact absurd (inside List.mem_cons_self) minus
  · refine Form.imp (fun part n _ _ _ plain => ?_)
    cases plain with
    | numeral isNumeral => exact .numeral isNumeral

end Forms

/-- There is no point in a clock. -/
theorem point_notMem_clock {hh mm back : List Char} {hours minutes seconds : Int}
    (writesHours : Component hh hours) (writesMinutes : Component mm minutes)
    (writesSeconds : Seconds Component back seconds) : '.' ∉ hh ++ ':' :: mm ++ back := by
  have hhPoint := point_notMem writesHours.signed
  have mmPoint := point_notMem writesMinutes.signed
  cases writesSeconds with
  | none => simp [hhPoint, mmPoint]
  | written writes => simp [hhPoint, mmPoint, point_notMem writes.signed]

/-- What is read is of the form of offsets, with components of 64 bits. -/
theorem read?_eq_some_iff_component {text : String} {span : Span} :
    read? text = some span ↔
      ∃ total, Form Component (Text.trim text.toList) total ∧ Span.ofSeconds? total = some span := by
  generalize isTrimmed : Text.trim text.toList = trimmed
  unfold read?
  rw [isTrimmed]
  simp only [Option.bind_eq_bind, Option.bind_eq_some_iff, Prod.exists, Bool.and_eq_true,
    decide_eq_true_eq, Option.ite_none_right_eq_some]
  constructor
  · rintro ⟨days, clock, isSplit, hours, minutes, seconds, isClock, inside, isSpan⟩
    obtain ⟨front, rfl, writesDays, -⟩ := splitDays?_eq_some_iff.mp isSplit
    obtain ⟨hh, mm, back, rfl, writesHours, writesMinutes, writesSeconds⟩ :=
      clock?_eq_some_iff.mp isClock
    obtain ⟨⟨⟨⟨⟨⟨daysIn, hoursFrom⟩, hoursTo⟩, minutesFrom⟩, minutesTo⟩, secondsFrom⟩, secondsTo⟩ :=
      inside
    refine ⟨_, ?_, isSpan⟩
    rw [← List.append_assoc, ← List.append_assoc]
    exact .clock writesDays writesHours writesMinutes writesSeconds daysIn ⟨hoursFrom, hoursTo⟩
      ⟨minutesFrom, minutesTo⟩ ⟨secondsFrom, secondsTo⟩
  · rintro ⟨total, form, isSpan⟩
    cases form with
    | @clock front hh mm back days hours minutes seconds writesDays writesHours writesMinutes
        writesSeconds daysIn hoursIn minutesIn secondsIn =>
      have isClock : clock? (hh ++ ':' :: mm ++ back) = some (hours, minutes, seconds) :=
        clock?_eq_some_iff.mpr ⟨hh, mm, back, rfl, writesHours, writesMinutes, writesSeconds⟩
      have isSplit : splitDays? (front ++ hh ++ ':' :: mm ++ back) =
          some (days, hh ++ ':' :: mm ++ back) :=
        splitDays?_eq_some_iff.mpr ⟨front, by simp, writesDays, fun _ =>
          point_notMem_clock writesHours writesMinutes writesSeconds⟩
      exact ⟨days, _, isSplit, hours, minutes, seconds, isClock,
        ⟨⟨⟨⟨⟨⟨daysIn, hoursIn.1⟩, hoursIn.2⟩, minutesIn.1⟩, minutesIn.2⟩, secondsIn.1⟩, secondsIn.2⟩,
        isSpan⟩

/-- What is read is of the form of offsets and within the bound of spans; and all of that is read. -/
theorem read?_eq_some_iff {text : String} {span : Span} :
    read? text = some span ↔ ∃ total, Form Signed (Text.trim text.toList) total ∧
      span.nanoseconds = total * 1000000000 := by
  rw [read?_eq_some_iff_component]
  constructor
  · rintro ⟨total, form, isSpan⟩
    exact ⟨total, form.imp (fun _ _ _ _ _ component => component.signed),
      Span.ofSeconds?_eq_some_iff.mp isSpan⟩
  · rintro ⟨total, form, isSpan⟩
    -- A component that does not fit 64 bits leads out of the bound of spans.
    have bounded := span.inRange
    simp only [Span.bound] at bounded
    refine ⟨total, form.imp (fun _ n _ positive below signed => ?_),
      Span.ofSeconds?_eq_some_iff.mpr isSpan⟩
    exact component?_eq_some_iff.mpr ⟨signed, by omega, by omega⟩

/-- The complaint about a text that is no offset. -/
def complaint (text : String) : ConfigurationError :=
  .invalidField .schedule "offsetTime" ("'" ++ text ++ "' is not of the form [d.]hh:mm[:ss]")

/-- The configuration of a deferral, if its start and the text of its offset are given. -/
theorem ofTiming_eq_ok_iff {start : Option Instant} {text : String} {configuration : Configuration} :
    Configuration.ofTiming start text = .ok configuration ↔
      ∃ span, read? text = some span ∧ configuration = .schedule ⟨start, span⟩ := by
  unfold Configuration.ofTiming
  cases read? text with
  | none => simp
  | some span => simp [eq_comm]

section Deferrals

variable {options : Json} {start : Option Instant} {text : String}
  (given : Configuration.read .schedule options Configuration.decodeTiming = .ok (start, text))

include given

theorem parse_schedule_eq :
    Configuration.parse .schedule options = Configuration.ofTiming start text := by
  simp only [Configuration.parse, given, Except.bind]

/-- The options of a deferral with an offset are a configuration exactly if the offset, without the
white space around it, is of the form `[d.]hh:mm[:ss]` and does not come to more than spans can be.
The components are written in digits, with a sign or without. What they come to is the offset, which
is not negative; and if there is no sign in the text, all components are numerals. -/
theorem offset_accepted :
    (forall configuration, Configuration.parse .schedule options = .ok configuration ↔
      ∃ total span, Form Signed (Text.trim text.toList) total ∧
        span.nanoseconds = total * 1000000000 ∧ configuration = .schedule ⟨start, span⟩) ∧
    ((∃ configuration, Configuration.parse .schedule options = .ok configuration) ↔
      ∃ total, Form Signed (Text.trim text.toList) total ∧ total * 1000000000 <= Span.bound) ∧
    (forall cause, Configuration.parse .schedule options = .error cause -> cause = complaint text) ∧
    (forall total, Form Signed (Text.trim text.toList) total -> 0 <= total) ∧
    ('+' ∉ Text.trim text.toList -> '-' ∉ Text.trim text.toList -> forall total,
      Form Signed (Text.trim text.toList) total ↔ Form Plain (Text.trim text.toList) total) := by
  rw [parse_schedule_eq given]
  have accepted (configuration : Configuration) :
      Configuration.ofTiming start text = .ok configuration ↔
        ∃ total span, Form Signed (Text.trim text.toList) total ∧
          span.nanoseconds = total * 1000000000 ∧ configuration = .schedule ⟨start, span⟩ := by
    rw [ofTiming_eq_ok_iff]
    constructor
    · rintro ⟨span, isRead, rfl⟩
      obtain ⟨total, form, same⟩ := read?_eq_some_iff.mp isRead
      exact ⟨total, span, form, same, rfl⟩
    · rintro ⟨total, span, form, same, rfl⟩
      exact ⟨span, read?_eq_some_iff.mpr ⟨total, form, same⟩, rfl⟩
  refine ⟨accepted, ?_, ?_, fun total form => form.total_nonneg,
    fun plus minus total => form_signed_iff plus minus⟩
  · constructor
    · rintro ⟨configuration, isParsed⟩
      obtain ⟨total, span, form, same, -⟩ := (accepted configuration).mp isParsed
      exact ⟨total, form, same ▸ span.inRange.2⟩
    · rintro ⟨total, form, fits⟩
      have positive := form.total_nonneg
      have bounded : -Span.bound <= total * 1000000000 := by
        simp only [Span.bound]
        omega
      exact ⟨_, (accepted _).mpr ⟨total, ⟨_, bounded, fits⟩, form, rfl, rfl⟩⟩
  · intro cause refused
    unfold Configuration.ofTiming at refused
    split at refused
    · cases refused
    · cases refused
      rfl

end Deferrals

/-- The options of a deferral by one hour, with a plus sign. -/
def hourAhead : Json := .object [("offsetTime", .string "+1:00")]

/-- An hour with a plus sign is accepted. -/
theorem offset_accepted_plus :
    Configuration.parse .schedule hourAhead = .ok (.schedule ⟨none, .ofSeconds32 3600⟩) := by
  have given : Configuration.read .schedule hourAhead Configuration.decodeTiming =
      .ok (none, "+1:00") := rfl
  have hour : Digits.Numeral ['1'] := ⟨List.cons_ne_nil _ _, List.forall_mem_singleton.mpr rfl⟩
  have minutes : Digits.Numeral ['0', '0'] :=
    ⟨List.cons_ne_nil _ _, List.forall_mem_cons.mpr ⟨rfl, List.forall_mem_singleton.mpr rfl⟩⟩
  have form : Form Signed ([] ++ ('+' :: ['1']) ++ ':' :: ['0', '0'] ++ [])
      (0 * 86400 + Digits.number ['1'] * 3600 + Digits.number ['0', '0'] * 60 + 0) :=
    .clock .none (.plus hour) (.numeral minutes) .none (by decide) (by decide) (by decide) (by decide)
  exact ((offset_accepted given).1 _).mpr ⟨_, .ofSeconds32 3600, form, by decide, rfl⟩

theorem plus_notMem {text : List Char} {total : Int} (form : Form Plain text total) :
    '+' ∉ text := by
  have numeral {part : List Char} {n : Int} (plain : Plain part n) : '+' ∉ part := by
    intro member
    cases plain with
    | numeral isNumeral => exact absurd (isNumeral.2 '+' member) (by decide)
  cases form with
  | @clock front hh mm back _ _ _ _ writesDays writesHours writesMinutes writesSeconds =>
    have inFront : '+' ∉ front := by
      cases writesDays with
      | none => exact List.not_mem_nil
      | written writes => simp [numeral writes]
    have inBack : '+' ∉ back := by
      cases writesSeconds with
      | none => exact List.not_mem_nil
      | written writes => simp [numeral writes]
    simp [inFront, inBack, numeral writesHours, numeral writesMinutes]

/-- Not only texts whose components are numerals are accepted: the hour may have a sign. -/
theorem not_offset_plain :
    ¬ forall (options : Json) (start : Option Instant) (text : String),
      Configuration.read .schedule options Configuration.decodeTiming = .ok (start, text) ->
      ((∃ configuration, Configuration.parse .schedule options = .ok configuration) ↔
        ∃ total, Form Plain (Text.trim text.toList) total ∧
          total * 1000000000 <= Span.bound) := by
  intro law
  have parsed : Configuration.parse .schedule hourAhead =
      .ok (.schedule ⟨none, .ofSeconds32 3600⟩) := rfl
  obtain ⟨total, form, -⟩ := (law hourAhead none "+1:00" rfl).mp ⟨_, parsed⟩
  exact plus_notMem form (by decide)

end Offset

end Outreach
