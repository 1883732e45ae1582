/-
Module: VirtLifecycle.Proofs.Time.Calendar
Purpose: Days and dates are the same thing: every day falls on a date that exists, and that date is
  counted as the day it came from.
Main exports: Calendar.Date.toDay_ofDay, Calendar.Date.isValid_ofDay
-/
import Mathlib.Tactic.IntervalCases
import VirtLifecycle.Time.Calendar

namespace VirtLifecycle.Calendar

/-- The year within its cycle of four hundred that a day of the cycle lies in. Years begin in March. -/
def cycleYear (day : Nat) : Nat :=
  (day - day / 1460 + day / 36524 - day / 146096) / 365

/-- The days of a cycle before a year of it. -/
def daysBefore (year : Nat) : Nat :=
  365 * year + year / 4 - year / 100

/-- A day of a cycle by its century, the four years and the year it lies in. Only the last of four years
has a leap day, and of the last four years of a century only those that end the cycle. -/
theorem exists_century {day : Nat} (inCycle : day < 146097) :
    ∃ century fours year rest, century ≤ 3 ∧ fours ≤ 24 ∧ year ≤ 3 ∧ rest ≤ 365 ∧
      day = 36524 * century + 1461 * fours + 365 * year + rest ∧
      (rest = 365 → year = 3 ∧ (fours = 24 → century = 3)) := by
  refine ⟨min (day / 36524) 3, (day - 36524 * min (day / 36524) 3) / 1461,
    min ((day - 36524 * min (day / 36524) 3) % 1461 / 365) 3,
    (day - 36524 * min (day / 36524) 3) % 1461 -
      365 * min ((day - 36524 * min (day / 36524) 3) % 1461 / 365) 3, ?_⟩
  generalize centuryEq : min (day / 36524) 3 = century
  generalize foursEq : (day - 36524 * century) / 1461 = fours
  generalize inFoursEq : (day - 36524 * century) % 1461 = inFours
  generalize yearEq : min (inFours / 365) 3 = year
  omega

/-- The year within four centuries is found from the day: centuries, four-year spells and years are counted
off one after the other. The last day of a leap year has no whole year after it. -/
theorem cycleYear_eq {century fours year rest : Nat} (centuryLe : century ≤ 3) (foursLe : fours ≤ 24)
    (yearLe : year ≤ 3) (restLe : rest ≤ 365)
    (leap : rest = 365 → year = 3 ∧ (fours = 24 → century = 3)) :
    cycleYear (36524 * century + 1461 * fours + 365 * year + rest) =
      100 * century + 4 * fours + year := by
  unfold cycleYear
  generalize dayEq : 36524 * century + 1461 * fours + 365 * year + rest = day
  have inCentury : day < 36524 * century + 36524 ∨ day = 146096 ∧ century = 3 := by omega
  have centuries : day / 36524 = century + day / 146096 := by
    rcases inCentury with before | ⟨rfl, rfl⟩
    · have whole : day / 36524 = century := Nat.div_eq_of_lt_le (by omega) (by omega)
      have none : day / 146096 = 0 := Nat.div_eq_of_lt (by omega)
      rw [whole, none, Nat.add_zero]
    · rfl
  -- so many days have been leap days, or one more from the end of the four years on
  have leaps : day / 1460 = 25 * century + fours ∧ rest < 365 ∨
      day / 1460 = 25 * century + fours + 1 ∧ 0 < rest := by omega
  rcases leaps with ⟨leapsEq, short⟩ | ⟨leapsEq, some⟩
  · rw [centuries, leapsEq]
    apply Nat.div_eq_of_lt_le <;> omega
  · rw [centuries, leapsEq]
    apply Nat.div_eq_of_lt_le <;> omega

theorem daysBefore_eq {century fours year : Nat} (foursLe : fours ≤ 24) (yearLe : year ≤ 3) :
    daysBefore (100 * century + 4 * fours + year) = 36524 * century + 1461 * fours + 365 * year := by
  unfold daysBefore
  omega

/-- A day of a cycle lies in its year: at most three hundred and sixty-five days of that year are before
it, and so many only in a year that ends with a leap day. -/
theorem cycleYear_bounds {day : Nat} (inCycle : day < 146097) :
    cycleYear day < 400 ∧ daysBefore (cycleYear day) ≤ day ∧
      day ≤ daysBefore (cycleYear day) + 365 ∧
      (day = daysBefore (cycleYear day) + 365 →
        (cycleYear day + 1) % 4 = 0 ∧
          ((cycleYear day + 1) % 100 ≠ 0 ∨ cycleYear day + 1 = 400)) := by
  obtain ⟨century, fours, year, rest, centuryLe, foursLe, yearLe, restLe, rfl, leap⟩ :=
    exists_century inCycle
  rw [cycleYear_eq centuryLe foursLe yearLe restLe leap, daysBefore_eq foursLe yearLe]
  omega

namespace Date

/-- A day by its cycle, its year of the cycle and its place in that year, and the date it falls on. -/
theorem exists_ofDay (n : Int) :
    ∃ (cycle : Int) (year rest : Nat), year < 400 ∧ rest ≤ 365 ∧
      (rest = 365 → (year + 1) % 4 = 0 ∧ ((year + 1) % 100 ≠ 0 ∨ year + 1 = 400)) ∧
      n + 719468 = cycle * 146097 + daysBefore year + rest ∧
      (ofDay n).day = rest - (153 * ((5 * rest + 2) / 153) + 2) / 5 + 1 ∧
      (ofDay n).month =
        (if (5 * rest + 2) / 153 < 10 then (5 * rest + 2) / 153 + 3 else (5 * rest + 2) / 153 - 9) ∧
      (ofDay n).year = cycle * 400 + year + (if (ofDay n).month ≤ 2 then 1 else 0) := by
  have inCycle : ((n + 719468) % 146097).toNat < 146097 := by omega
  have bounds := cycleYear_bounds inCycle
  refine ⟨(n + 719468) / 146097, cycleYear ((n + 719468) % 146097).toNat,
    ((n + 719468) % 146097).toNat - daysBefore (cycleYear ((n + 719468) % 146097).toNat),
    bounds.1, ?_, ?_, ?_, rfl, rfl, rfl⟩
  · omega
  · intro last
    exact bounds.2.2.2 (by omega)
  · omega

/-- A date is counted as the day that it was computed from. -/
theorem toDay_ofDay (n : Int) : (ofDay n).toDay = n := by
  obtain ⟨cycle, year, rest, yearLt, restLe, leap, whole, day, month, years⟩ := exists_ofDay n
  generalize ofDay n = date at day month years
  obtain ⟨dateYear, dateMonth, dateDay⟩ := date
  simp only at day month years
  have marchYear : (if dateMonth ≤ 2 then dateYear - 1 else dateYear) = cycle * 400 + year := by
    split at years <;> omega
  have fromMarch : (dateMonth + 9) % 12 = (5 * rest + 2) / 153 := by
    split at month <;> omega
  have inYear : ((dateMonth + 9) % 12 * 153 + 2) / 5 + (dateDay - 1) = rest := by
    rw [fromMarch, day]
    omega
  have cycleEq : (cycle * 400 + (year : Int)) / 400 = cycle := by omega
  have yearEq : (cycle * 400 + (year : Int)) % 400 = year := by omega
  unfold daysBefore at whole
  simp only [toDay, marchYear, inYear, cycleEq, yearEq]
  omega

/-- The months from March on are as long as the formula for them says, but for the last one. -/
theorem day_le_daysInMonth {year : Int} {rest : Nat} (restLe : rest ≤ 365)
    (leap : rest = 365 → isLeapYear year = true) :
    rest - (153 * ((5 * rest + 2) / 153) + 2) / 5 + 1 ≤
      daysInMonth year
        (if (5 * rest + 2) / 153 < 10 then (5 * rest + 2) / 153 + 3 else (5 * rest + 2) / 153 - 9) := by
  have monthLe : (5 * rest + 2) / 153 ≤ 11 := by omega
  generalize monthEq : (5 * rest + 2) / 153 = month at monthLe
  interval_cases month
  case «11» =>
    change rest - 337 + 1 ≤ if isLeapYear year then 29 else 28
    by_cases last : rest = 365
    · rw [if_pos (leap last)]
      omega
    · split <;> omega
  all_goals
    simp [daysInMonth]
    omega

/-- Every day falls on a date that exists, if its year can be written. -/
theorem isValid_ofDay {n : Int} (low : minYear ≤ (ofDay n).year) (high : (ofDay n).year ≤ maxYear) :
    (ofDay n).isValid = true := by
  obtain ⟨cycle, year, rest, yearLt, restLe, leap, whole, day, month, years⟩ := exists_ofDay n
  generalize ofDay n = date at day month years low high
  obtain ⟨dateYear, dateMonth, dateDay⟩ := date
  simp only at day month years low high
  have leapYear : rest = 365 → isLeapYear dateYear = true := by
    intro last
    obtain ⟨fourth, century⟩ := leap last
    have early : dateMonth ≤ 2 := by
      rw [month, last]
      decide
    rw [if_pos early] at years
    simp only [isLeapYear, Bool.and_eq_true, Bool.or_eq_true, beq_iff_eq, bne_iff_ne]
    omega
  have monthLow : 1 ≤ dateMonth := by split at month <;> omega
  have monthHigh : dateMonth ≤ 12 := by split at month <;> omega
  have dayHigh := day_le_daysInMonth restLe leapYear
  rw [← day, ← month] at dayHigh
  simp only [isValid, Bool.and_eq_true, decide_eq_true_eq]
  exact ⟨⟨⟨⟨⟨low, high⟩, monthLow⟩, monthHigh⟩, by omega⟩, dayHigh⟩

end Date

end VirtLifecycle.Calendar
