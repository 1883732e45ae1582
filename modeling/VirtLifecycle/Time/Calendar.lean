/-
Module: VirtLifecycle.Time.Calendar
Purpose: Days of the Gregorian calendar, counted from 1970-01-01, and the dates they fall on.
Specification: [SPEC 10 Serialization]: condition timestamps.
Main exports: Calendar.Date, Calendar.Date.isValid, Calendar.Date.toDay, Calendar.Date.ofDay
-/

namespace VirtLifecycle.Calendar

/-- A date: year, month from 1, day of the month from 1. -/
structure Date where
  year : Int
  month : Nat
  day : Nat
deriving DecidableEq, Repr, Inhabited

def isLeapYear (year : Int) : Bool :=
  year % 4 == 0 && (year % 100 != 0 || year % 400 == 0)

def daysInMonth (year : Int) (month : Nat) : Nat :=
  match month with
  | 2 => if isLeapYear year then 29 else 28
  | 4 | 6 | 9 | 11 => 30
  | _ => 31

/-- The years that dates may lie in. -/
def minYear : Int := -262143
def maxYear : Int := 262142

def Date.isValid (d : Date) : Bool :=
  minYear ≤ d.year && d.year ≤ maxYear && 1 ≤ d.month && d.month ≤ 12 &&
    1 ≤ d.day && d.day ≤ daysInMonth d.year d.month

/-- The number of days from 1970-01-01 to a date. Years are counted from March, so that a leap day
is the last of its year, and in cycles of four hundred years, which all have 146097 days. -/
def Date.toDay (d : Date) : Int :=
  let year := if d.month ≤ 2 then d.year - 1 else d.year
  let cycle := year / 400
  let yearOfCycle := year % 400
  let dayOfYear := ((d.month + 9) % 12 * 153 + 2) / 5 + (d.day - 1)
  cycle * 146097 + (yearOfCycle * 365 + yearOfCycle / 4 - yearOfCycle / 100 + dayOfYear) - 719468

/-- The date a given number of days after 1970-01-01. -/
def Date.ofDay (n : Int) : Date :=
  let shifted := n + 719468
  let cycle := shifted / 146097
  let dayOfCycle := (shifted % 146097).toNat
  let yearOfCycle := (dayOfCycle - dayOfCycle / 1460 + dayOfCycle / 36524 - dayOfCycle / 146096) / 365
  let dayOfYear := dayOfCycle - (365 * yearOfCycle + yearOfCycle / 4 - yearOfCycle / 100)
  let monthFromMarch := (5 * dayOfYear + 2) / 153
  let day := dayOfYear - (153 * monthFromMarch + 2) / 5 + 1
  let month := if monthFromMarch < 10 then monthFromMarch + 3 else monthFromMarch - 9
  ⟨cycle * 400 + yearOfCycle + (if month ≤ 2 then 1 else 0), month, day⟩

example : (Date.mk 1970 1 1).toDay = 0 := by decide
example : Date.ofDay 19723 = ⟨2024, 1, 1⟩ := by decide
example : Date.ofDay (-719528) = ⟨0, 1, 1⟩ := by decide

end VirtLifecycle.Calendar
