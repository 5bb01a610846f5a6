/-!
# The calendar

The proleptic Gregorian calendar.  Days are numbered from 1970-01-01, which is
day zero.
-/

namespace ContentAccess
namespace Calendar

/-- The first year that dates may lie in. -/
def firstYear : Int := -262143

/-- The last year that dates may lie in. -/
def lastYear : Int := 262142

/-- The year has a twenty-ninth of February. -/
def isLeap (year : Int) : Bool :=
  year % 4 == 0 && (year % 100 != 0 || year % 400 == 0)

/-- The number of days of a month; there is none outside 1 to 12. -/
def daysInMonth (year : Int) : Nat → Nat
  | 1 => 31
  | 2 => if isLeap year then 29 else 28
  | 3 => 31
  | 4 => 30
  | 5 => 31
  | 6 => 30
  | 7 => 31
  | 8 => 31
  | 9 => 30
  | 10 => 31
  | 11 => 30
  | 12 => 31
  | _ => 0

/-- The number of days of a year before the given month. -/
def daysBeforeMonth (year : Int) : Nat → Nat
  | 0 => 0
  | month + 1 => daysBeforeMonth year month + daysInMonth year month

/-- The number of days of a year. -/
def daysInYear (year : Int) : Nat :=
  if isLeap year then 366 else 365

/-- The number of the first of January. -/
def yearStart (year : Int) : Int :=
  let before := year - 1
  365 * before + before / 4 - before / 100 + before / 400 - 719162

/-- The year that a day lies in.  The mean length of a year gives the year or a
neighbour of it. -/
def yearOfDay (day : Int) : Int :=
  let guess := (day + 719162) * 400 / 146097 + 1
  if yearStart (guess + 1) ≤ day then guess + 1
  else if day < yearStart guess then guess - 1
  else guess

/-- The day of the week, counted from Monday, which is zero. -/
def weekdayOfDay (day : Int) : Int :=
  (day + 3) % 7

end Calendar

/-- A day, as a year and the number of the day in it, counted from one. -/
structure Date where
  year : Int
  dayOfYear : Nat
  deriving DecidableEq, Repr

namespace Date

open Calendar

/-- The day of a year, if the calendar has it. -/
def ofDayOfYear? (year : Int) (dayOfYear : Nat) : Option Date :=
  if firstYear ≤ year ∧ year ≤ lastYear ∧ 1 ≤ dayOfYear ∧ dayOfYear ≤ daysInYear year then
    some ⟨year, dayOfYear⟩
  else
    none

/-- The day of a month, if the calendar has it. -/
def ofMonthDay? (year : Int) (month day : Nat) : Option Date :=
  if 1 ≤ day ∧ day ≤ daysInMonth year month then
    ofDayOfYear? year (daysBeforeMonth year month + day)
  else
    none

/-- The number of the day. -/
def dayNumber (date : Date) : Int :=
  yearStart date.year + date.dayOfYear - 1

/-- The day with this number, if the calendar has it. -/
def ofDayNumber? (day : Int) : Option Date :=
  let year := yearOfDay day
  ofDayOfYear? year (day - yearStart year + 1).toNat

/-- The month, counted from one. -/
def month (date : Date) : Nat :=
  ((List.range 12).filter fun before =>
    daysBeforeMonth date.year (before + 1) < date.dayOfYear).length

/-- The day of the month, counted from one. -/
def day (date : Date) : Nat :=
  date.dayOfYear - daysBeforeMonth date.year date.month

/-- The quarter of the year, counted from one. -/
def quarter (date : Date) : Nat :=
  (date.month - 1) / 3 + 1

/-- The day of the week, counted from Monday, which is zero. -/
def weekday (date : Date) : Int :=
  weekdayOfDay date.dayNumber

/-- The number of whole or partial weeks since the first `start` of the year;
days before it are in week zero. -/
def weekFrom (start : Int) (date : Date) : Int :=
  (date.dayOfYear - (date.weekday - start) % 7 + 6) / 7

/-- The day of a week counted like this, if it lies in the year. -/
def ofWeekFrom? (start : Int) (year week weekday : Int) : Option Date :=
  let first := 1 + (start - weekdayOfDay (yearStart year)) % 7
  let dayOfYear := first + (week - 1) * 7 + (weekday - start) % 7
  if dayOfYear ≤ 0 then none else ofDayOfYear? year dayOfYear.toNat

/-- The Monday of the week of a year that holds the fourth of January. -/
def firstMonday (year : Int) : Int :=
  yearStart year + 3 - weekdayOfDay (yearStart year + 3)

/-- The year that the Thursday of the week of a day lies in. -/
def weekYear (date : Date) : Int :=
  yearOfDay (date.dayNumber - date.weekday + 3)

/-- The number of the week in its week year. -/
def weekOfWeekYear (date : Date) : Int :=
  (date.dayNumber - firstMonday date.weekYear) / 7 + 1

/-- The day of a week of a week year, if the year has that week. -/
def ofWeekYear? (year week weekday : Int) : Option Date :=
  let monday := firstMonday year + 7 * (week - 1)
  if 1 ≤ week ∧ monday < firstMonday (year + 1) then ofDayNumber? (monday + weekday) else none

end Date
end ContentAccess
