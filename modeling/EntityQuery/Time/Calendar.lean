import EntityQuery.Text.Digits

/-!
# Calendar dates

Days and dates of the Gregorian calendar, carried on before its introduction
and beyond the year 9999.  Days are counted from 1970-01-01.

The count goes by years that begin on 1 March, so that a leap day is the last
day of its year, and by cycles of 400 such years, each of 146097 days.
-/

namespace EntityQuery

/-- A date of the calendar. -/
structure Date where
  year : Int
  month : Nat
  day : Nat
deriving DecidableEq

namespace Date

/-- The days of a cycle of 400 years. -/
def cycleDays : Nat := 146097

/-- The number of the day 1970-01-01 in days from 0000-03-01. -/
def epochOffset : Int := 719468

/-- Whether a year has a 29 February. -/
def isLeap (year : Int) : Bool :=
  year % 4 == 0 && (year % 100 != 0 || year % 400 == 0)

/-- The number of days of a month. -/
def monthDays (year : Int) (month : Nat) : Nat :=
  if month = 2 then (if isLeap year then 29 else 28)
  else if month = 4 ∨ month = 6 ∨ month = 9 ∨ month = 11 then 30
  else 31

/-- Whether the calendar has the date. -/
def isValid (d : Date) : Bool :=
  1 ≤ d.month && d.month ≤ 12 && 1 ≤ d.day && d.day ≤ monthDays d.year d.month

/-- The date of a day of the year that begins on 1 March, with the months of the next year
after those of this one: month and day, and whether the date is in the next year. -/
def ofDayOfYear (dayOfYear : Nat) : Nat × Nat × Bool :=
  let index := (5 * dayOfYear + 2) / 153
  let day := dayOfYear - (153 * index + 2) / 5 + 1
  if index < 10 then (index + 3, day, false) else (index - 9, day, true)

/-- The date that is the given number of days after 1970-01-01. -/
def ofDays (days : Int) : Date :=
  let shifted := days + epochOffset
  let cycle := shifted / cycleDays
  let dayOfCycle := (shifted % cycleDays).toNat
  let yearOfCycle :=
    (dayOfCycle - dayOfCycle / 1460 + dayOfCycle / 36524 - dayOfCycle / 146096) / 365
  let dayOfYear := dayOfCycle - (365 * yearOfCycle + yearOfCycle / 4 - yearOfCycle / 100)
  let (month, day, next) := ofDayOfYear dayOfYear
  ⟨yearOfCycle + cycle * 400 + (if next then 1 else 0), month, day⟩

/-- The number of days from 1970-01-01 to a date. -/
def toDays (d : Date) : Int :=
  let year := if d.month ≤ 2 then d.year - 1 else d.year
  let cycle := year / 400
  let yearOfCycle := (year % 400).toNat
  let index := if d.month ≤ 2 then d.month + 9 else d.month - 3
  let dayOfYear := (153 * index + 2) / 5 + d.day - 1
  let dayOfCycle := yearOfCycle * 365 + yearOfCycle / 4 - yearOfCycle / 100 + dayOfYear
  cycle * cycleDays + dayOfCycle - epochOffset

end Date

end EntityQuery
