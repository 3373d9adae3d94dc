import Mathlib.Tactic.IntervalCases
import Outreach.Time.Calendar

/-!
# Dates of days

The date of a day exists and names the day. Both are seen in years that begin in March, as they do
in eras of 400 years.
-/

namespace Outreach.Calendar

/-- The date of a day of a month in a year that begins in March. -/
def Date.ofMarch (year month day : Int) : Date :=
  let calendarMonth := if month < 10 then month + 3 else month - 9
  ⟨year + (if calendarMonth <= 2 then 1 else 0), calendarMonth.toNat, day.toNat⟩

theorem Date.toDay_ofMarch (year : Int) {month day : Int} (inYear : 0 <= month ∧ month <= 11)
    (inMonth : 1 <= day) :
    (Date.ofMarch year month day).toDay =
      year / 400 * 146097 + (year % 400 * 365 + year % 400 / 4 - year % 400 / 100 +
        ((153 * month + 2) / 5 + day - 1)) - 719468 := by
  obtain ⟨least, most⟩ := inYear
  interval_cases month <;> simp [Date.toDay, Date.ofMarch] <;> omega

/-- A date exists unless it lies behind the last day of its month; only the last month of such a
year depends on the year. -/
theorem Date.isValid_ofMarch {year month day : Int} (inYear : 0 <= month ∧ month <= 11)
    (inMonth : 1 <= day) (short : day <= (153 * (month + 1) + 2) / 5 - (153 * month + 2) / 5)
    (inFebruary : month = 11 -> day <= if isLeapYear (year + 1) then 29 else 28) :
    (Date.ofMarch year month day).isValid = true := by
  obtain ⟨least, most⟩ := inYear
  interval_cases month
  case «11» =>
    have bound := inFebruary rfl
    by_cases leap : isLeapYear (year + 1)
    · simp [Date.isValid, Date.ofMarch, monthLength, leap] at bound ⊢
      omega
    · simp [Date.isValid, Date.ofMarch, monthLength, leap] at bound ⊢
      omega
  all_goals
    simp [Date.isValid, Date.ofMarch, monthLength] at short ⊢
    omega

section Era

variable {day year : Int}

/-- The year of a day in its era, and the day of that year. The last day of an era is its leap
day; all others keep step with years of 365 days, a leap day in four years and none in a century. -/
theorem yearOfEra_bounds (inEra : 0 <= day ∧ day <= 146096)
    (isYear : year = (day - day / 1460 + day / 36524 - day / 146096) / 365) :
    (0 <= year ∧ year <= 399) ∧ 0 <= day - (365 * year + year / 4 - year / 100) ∧
      day - (365 * year + year / 4 - year / 100) <= 365 := by
  have last : day / 146096 = 0 ∨ day = 146096 := by omega
  rcases last with earlier | rfl
  · rw [earlier] at isYear
    have nonnegative : 0 <= year := by omega
    have fewLeaps : year / 4 <= day / 1460 := by omega
    have manyLeaps : day / 1460 <= year / 4 + 1 := by omega
    have fewCenturies : year / 100 <= day / 36524 := by omega
    have manyCenturies : day / 36524 <= year / 100 + 1 := by omega
    have turn : day / 36524 = year / 100 + 1 -> year / 4 + 1 <= day / 1460 := by omega
    omega
  · subst isYear
    decide

/-- A year of the era that has a 366th day ends with a leap day. -/
theorem isLeapYear_of_full (inEra : 0 <= day ∧ day <= 146096)
    (isYear : year = (day - day / 1460 + day / 36524 - day / 146096) / 365)
    (full : day - (365 * year + year / 4 - year / 100) = 365) (era : Int) :
    isLeapYear (year + era * 400 + 1) = true := by
  have leap : (year + 1) % 4 = 0 ∧ ((year + 1) % 100 ≠ 0 ∨ (year + 1) % 400 = 0) := by
    have bounds := (yearOfEra_bounds inEra isYear).1
    have last : day / 146096 = 0 ∨ day = 146096 := by omega
    rcases last with earlier | rfl
    · rw [earlier] at isYear
      have manyLeaps : day / 1460 <= year / 4 + 1 := by omega
      have fewCenturies : year / 100 <= day / 36524 := by omega
      have centuries : day / 36524 = year / 100 := by omega
      have leaps : day / 1460 = year / 4 + 1 := by omega
      have fourth : year % 4 = 3 := by omega
      refine ⟨by omega, ?_⟩
      by_cases century : (year + 1) % 100 = 0
      · omega
      · exact .inl century
    · subst isYear
      decide
  simp only [isLeapYear, Bool.and_eq_true, Bool.or_eq_true, decide_eq_true_eq, bne_iff_ne]
  omega

end Era

/-- The date of a day names it. -/
theorem Date.toDay_ofDay (day : Int) : (Date.ofDay day).toDay = day := by
  have inEra : 0 <= (day + 719468) % 146097 ∧ (day + 719468) % 146097 <= 146096 := by omega
  have bounds := yearOfEra_bounds inEra rfl
  have parts : day = (day + 719468) / 146097 * 146097 + (day + 719468) % 146097 - 719468 := by omega
  show (Date.ofMarch _ _ _).toDay = day
  generalize (day + 719468) % 146097 = dayOfEra at *
  generalize (day + 719468) / 146097 = era at *
  generalize (dayOfEra - dayOfEra / 1460 + dayOfEra / 36524 - dayOfEra / 146096) / 365 = year at *
  have quotient : (year + era * 400) / 400 = era := by omega
  have remainder : (year + era * 400) % 400 = year := by omega
  rw [Date.toDay_ofMarch _ (by omega) (by omega), quotient, remainder]
  omega

/-- The date of a day exists. -/
theorem Date.isValid_ofDay (day : Int) : (Date.ofDay day).isValid = true := by
  have inEra : 0 <= (day + 719468) % 146097 ∧ (day + 719468) % 146097 <= 146096 := by omega
  have bounds := yearOfEra_bounds inEra rfl
  have leap := isLeapYear_of_full inEra rfl
  show (Date.ofMarch _ _ _).isValid = true
  generalize (day + 719468) % 146097 = dayOfEra at *
  generalize (day + 719468) / 146097 = era at *
  generalize (dayOfEra - dayOfEra / 1460 + dayOfEra / 36524 - dayOfEra / 146096) / 365 = year at *
  refine Date.isValid_ofMarch (by omega) (by omega) (by omega) ?_
  intro inFebruary
  by_cases full : dayOfEra - (365 * year + year / 4 - year / 100) = 365
  · rw [if_pos (leap full era)]
    omega
  · split <;> omega

/-- The years of an era are not before the one that it begins with, a multiple of 400. -/
theorem Date.era_le_year_ofDay (day : Int) :
    400 * ((day + 719468) / 146097) <= (Date.ofDay day).year := by
  have inEra : 0 <= (day + 719468) % 146097 ∧ (day + 719468) % 146097 <= 146096 := by omega
  have bounds := (yearOfEra_bounds inEra rfl).1
  show _ <= (Date.ofMarch _ _ _).year
  generalize (day + 719468) % 146097 = dayOfEra at *
  generalize (dayOfEra - dayOfEra / 1460 + dayOfEra / 36524 - dayOfEra / 146096) / 365 = year at *
  simp only [Date.ofMarch]
  split <;> omega

/-- Years are few where days are. -/
theorem Date.natAbs_year_ofDay {day : Int} (few : day.natAbs <= 100000000) :
    (Date.ofDay day).year.natAbs <= 300000 := by
  have inEra : 0 <= (day + 719468) % 146097 ∧ (day + 719468) % 146097 <= 146096 := by omega
  have bounds := (yearOfEra_bounds inEra rfl).1
  have eras : -700 <= (day + 719468) / 146097 ∧ (day + 719468) / 146097 <= 700 := by omega
  show (Date.ofMarch _ _ _).year.natAbs <= 300000
  generalize (day + 719468) % 146097 = dayOfEra at *
  generalize (day + 719468) / 146097 = era at *
  generalize (dayOfEra - dayOfEra / 1460 + dayOfEra / 36524 - dayOfEra / 146096) / 365 = year at *
  simp only [Date.ofMarch]
  split <;> omega

end Outreach.Calendar
