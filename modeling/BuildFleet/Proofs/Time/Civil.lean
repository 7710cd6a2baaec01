import Mathlib.Tactic.IntervalCases
import BuildFleet.Time.Calendar

/-!
# Days and dates

Every number is that of a day which the calendar has, and a day is found again by
its number. The calendar repeats itself after four hundred years, an era. Days of an
era fall into years, and days of a year into months, both counted from March on so
that the leap day comes last.
-/

namespace BuildFleet.Calendar

section Era

variable {dayOfEra yearOfEra : Nat}

/-- The year of a day of an era begins on this day or earlier and has at most 366 days,
the last of them in leap years alone. -/
theorem yearOfEra_bounds (inEra : dayOfEra < 146097)
    (year : yearOfEra =
      (dayOfEra - dayOfEra / 1460 + dayOfEra / 36524 - dayOfEra / 146096) / 365) :
    yearOfEra < 400 ∧ 365 * yearOfEra + yearOfEra / 4 - yearOfEra / 100 ≤ dayOfEra ∧
      dayOfEra ≤ 365 * yearOfEra + yearOfEra / 4 - yearOfEra / 100 + 365 ∧
      (dayOfEra = 365 * yearOfEra + yearOfEra / 4 - yearOfEra / 100 + 365 →
        (yearOfEra + 1) % 4 = 0 ∧ ((yearOfEra + 1) % 100 ≠ 0 ∨ yearOfEra = 399)) := by
  by_cases last : dayOfEra = 146096
  · subst last
    omega
  · -- Without its last day an era has four centuries of equal length.
    have era : dayOfEra / 146096 = 0 := by omega
    obtain ⟨century, isCentury⟩ : ∃ century, dayOfEra / 36524 = century := ⟨_, rfl⟩
    have four : century ≤ 3 := by omega
    obtain ⟨cycle, isCycle⟩ : ∃ cycle, dayOfEra / 1460 = cycle := ⟨_, rfl⟩
    obtain ⟨place, isPlace⟩ : ∃ place, yearOfEra % 4 = place := ⟨_, rfl⟩
    have places : place ≤ 3 := by omega
    rw [era, isCentury, isCycle] at year
    have yearCentury : yearOfEra / 100 = century := by interval_cases century <;> omega
    rw [yearCentury]
    refine ⟨?_, ?_, ?_, fun leap => ⟨?_, ?_⟩⟩
    · interval_cases century <;> omega
    · interval_cases century <;> omega
    · interval_cases century <;> omega
    · interval_cases place <;> interval_cases century <;> omega
    · interval_cases century <;> omega

/-- Months from March are found by a day of the year, and none is exceeded. -/
theorem monthFromMarch_bounds {dayOfYear month : Nat} (inYear : dayOfYear ≤ 365)
    (isMonth : month = (5 * dayOfYear + 2) / 153) :
    month ≤ 11 ∧ (153 * month + 2) / 5 ≤ dayOfYear ∧
      dayOfYear < (153 * month + 2) / 5 +
        (if month = 11 then 29 else if month = 1 ∨ month = 3 ∨ month = 6 ∨ month = 8 then 30
          else 31) := by
  have few : month ≤ 11 := by omega
  refine ⟨few, by omega, ?_⟩
  interval_cases month <;> simp <;> omega

end Era

/-- A day by the era, the year in the era from March on, the month from March on and the
day in the month. -/
structure Falls (dayNumber era : Int) (yearOfEra monthFromMarch day : Nat) : Prop where
  number : dayNumber = era * 146097 + (365 * yearOfEra + yearOfEra / 4 - yearOfEra / 100 +
    (153 * monthFromMarch + 2) / 5 + day : Nat) - 1 - epochShift
  year : yearOfEra < 400
  month : monthFromMarch ≤ 11
  first : 1 ≤ day
  last : day ≤ if monthFromMarch = 11 then 29
    else if monthFromMarch = 1 ∨ monthFromMarch = 3 ∨ monthFromMarch = 6 ∨ monthFromMarch = 8
      then 30 else 31
  leap : monthFromMarch = 11 → day = 29 →
    (yearOfEra + 1) % 4 = 0 ∧ ((yearOfEra + 1) % 100 ≠ 0 ∨ yearOfEra = 399)

/-- The date of a day that falls there. -/
def dateAt (era : Int) (yearOfEra monthFromMarch day : Nat) : Date :=
  let month := if monthFromMarch < 10 then monthFromMarch + 3 else monthFromMarch - 9
  let year := (yearOfEra : Int) + era * 400
  { year := if month ≤ 2 then year + 1 else year, month, day }

theorem ofDayNumber_falls (dayNumber : Int) : ∃ era yearOfEra monthFromMarch day,
    Falls dayNumber era yearOfEra monthFromMarch day ∧
      Date.ofDayNumber dayNumber = dateAt era yearOfEra monthFromMarch day := by
  obtain ⟨era, isEra⟩ : ∃ era, (dayNumber + epochShift) / 146097 = era := ⟨_, rfl⟩
  obtain ⟨dayOfEra, isDay⟩ : ∃ day, ((dayNumber + epochShift) % 146097).toNat = day := ⟨_, rfl⟩
  obtain ⟨yearOfEra, isYear⟩ : ∃ year,
    (dayOfEra - dayOfEra / 1460 + dayOfEra / 36524 - dayOfEra / 146096) / 365 = year := ⟨_, rfl⟩
  obtain ⟨dayOfYear, isDayOfYear⟩ : ∃ day,
    dayOfEra - (365 * yearOfEra + yearOfEra / 4 - yearOfEra / 100) = day := ⟨_, rfl⟩
  obtain ⟨month, isMonth⟩ : ∃ month, (5 * dayOfYear + 2) / 153 = month := ⟨_, rfl⟩
  have inEra : dayOfEra < 146097 := by omega
  have shifted : dayNumber + epochShift = era * 146097 + dayOfEra := by omega
  rcases yearOfEra_bounds inEra isYear.symm with ⟨few, begun, unended, leap⟩
  have inYear : dayOfYear ≤ 365 := by omega
  rcases monthFromMarch_bounds inYear isMonth.symm with ⟨months, since, before⟩
  refine ⟨era, yearOfEra, month, dayOfYear - (153 * month + 2) / 5 + 1, ?_, ?_⟩
  · clear isEra isDay isYear isMonth
    refine ⟨by omega, few, months, by omega, by omega, ?_⟩
    rintro rfl late
    exact leap (by omega)
  · subst isMonth isDayOfYear isYear isDay isEra
    rfl

theorem dateAt_dayNumber {dayNumber era : Int} {yearOfEra monthFromMarch day : Nat}
    (falls : Falls dayNumber era yearOfEra monthFromMarch day) :
    (dateAt era yearOfEra monthFromMarch day).dayNumber = dayNumber := by
  rcases falls with ⟨rfl, few, months, first, last, leap⟩
  have eras : ((yearOfEra : Int) + era * 400) / 400 = era := by omega
  have years : ((yearOfEra : Int) + era * 400) % 400 = yearOfEra := by omega
  by_cases late : monthFromMarch < 10
  · have year : ¬ monthFromMarch + 3 ≤ 2 := by omega
    simp only [Date.dayNumber, dateAt, late, if_true, year, if_false, eras, years]
    rw [show monthFromMarch + 3 - 3 = monthFromMarch by omega]
    omega
  · have year : monthFromMarch - 9 ≤ 2 := by omega
    simp only [Date.dayNumber, dateAt, late, if_false, year, if_true, add_sub_cancel_right, eras,
      years]
    rw [show monthFromMarch - 9 + 9 = monthFromMarch by omega]
    omega

theorem dateAt_valid {dayNumber era : Int} {yearOfEra monthFromMarch day : Nat}
    (falls : Falls dayNumber era yearOfEra monthFromMarch day) :
    (dateAt era yearOfEra monthFromMarch day).valid = true := by
  rcases falls with ⟨_, few, months, first, last, leap⟩
  by_cases february : monthFromMarch = 11
  · subst february
    have leapYear : day = 29 → isLeapYear ((yearOfEra : Int) + era * 400 + 1) = true := by
      intro late
      have divides := leap rfl late
      simp only [isLeapYear, Bool.and_eq_true, Bool.or_eq_true, decide_eq_true_eq]
      omega
    have within : day ≤ if isLeapYear ((yearOfEra : Int) + era * 400 + 1) then 29 else 28 := by
      rw [if_pos rfl] at last
      split
      · exact last
      · rename_i common
        have early : day ≠ 29 := fun late => common (leapYear late)
        omega
    simp [Date.valid, dateAt, daysInMonth, first, within]
  · interval_cases monthFromMarch <;> simp [Date.valid, dateAt, daysInMonth, first] at last ⊢ <;>
      omega

/-- A day is found again by its number. -/
theorem dayNumber_ofDayNumber (dayNumber : Int) :
    (Date.ofDayNumber dayNumber).dayNumber = dayNumber := by
  rcases ofDayNumber_falls dayNumber with ⟨era, yearOfEra, month, day, falls, date⟩
  rw [date, dateAt_dayNumber falls]

/-- The calendar has the day with any number. -/
theorem valid_ofDayNumber (dayNumber : Int) : (Date.ofDayNumber dayNumber).valid = true := by
  rcases ofDayNumber_falls dayNumber with ⟨era, yearOfEra, month, day, falls, date⟩
  rw [date, dateAt_valid falls]

end BuildFleet.Calendar
