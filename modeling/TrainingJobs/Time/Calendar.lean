/-
The proleptic Gregorian calendar: days counted from the start of 1970, and dates.

Years are counted from March, so that the leap day is the last of its year and the months of every year
start at the same day of the year; four hundred years have 146097 days whatever year they start in.
-/

set_option autoImplicit false

namespace TrainingJobs.Calendar

/-- A date: year, month from 1 to 12, day of the month from 1. -/
structure Date where
  /-- The year; the year 0 stands before the year 1. -/
  year : Int
  month : Nat
  day : Nat
  deriving DecidableEq, Repr

def isLeap (year : Int) : Bool :=
  year % 4 == 0 && (year % 100 != 0 || year % 400 == 0)

def daysInMonth (year : Int) (month : Nat) : Nat :=
  if month = 2 then if isLeap year then 29 else 28
  else if month = 4 ∨ month = 6 ∨ month = 9 ∨ month = 11 then 30
  else 31

def Date.valid (d : Date) : Bool :=
  decide (1 ≤ d.month) && decide (d.month ≤ 12) && decide (1 ≤ d.day) &&
    decide (d.day ≤ daysInMonth d.year d.month)

/-- The days from the start of 1970 to the date. -/
def Date.toDays (d : Date) : Int :=
  let year := if d.month ≤ 2 then d.year - 1 else d.year
  let month : Int := if d.month ≤ 2 then (d.month : Int) + 9 else (d.month : Int) - 3
  let era := year.fdiv 400
  let yearOfEra := year - era * 400
  let dayOfYear := (153 * month + 2) / 5 + ((d.day : Int) - 1)
  let dayOfEra := yearOfEra * 365 + yearOfEra / 4 - yearOfEra / 100 + dayOfYear
  era * 146097 + dayOfEra - 719468

/-- The date that is so many days from the start of 1970. -/
def Date.ofDays (days : Int) : Date :=
  let shifted := days + 719468
  let era := shifted.fdiv 146097
  let dayOfEra := shifted - era * 146097
  let yearOfEra := (dayOfEra - dayOfEra / 1460 + dayOfEra / 36524 - dayOfEra / 146096) / 365
  let dayOfYear := dayOfEra - (365 * yearOfEra + yearOfEra / 4 - yearOfEra / 100)
  let month := (5 * dayOfYear + 2) / 153
  let day := dayOfYear - (153 * month + 2) / 5 + 1
  let year := yearOfEra + era * 400
  if month < 10 then ⟨year, (month + 3).toNat, day.toNat⟩
  else ⟨year + 1, (month - 9).toNat, day.toNat⟩

end TrainingJobs.Calendar
