/-!
# Dates

The Gregorian calendar, extended without change to the years 1 to 9999. A day has a number: the
count of days since 1 January of year 1, which is day 0.

* `Date.dayNumber` counts the days before a date.
* `Date.ofDayNumber` finds the date of a day number: first its year (`yearOf`), then its month by
  walking through the lengths of the months.
-/

namespace SyntaxReport.Calendar

/-- A day of the calendar. -/
structure Date where
  year : Nat
  month : Nat
  day : Nat
  deriving DecidableEq, Repr

/-- The first year after those that a date may lie in. -/
def yearLimit : Nat := 10000

/-- A leap year is divisible by four, and by a hundred only if also by four hundred. -/
def isLeap (year : Nat) : Bool :=
  year % 4 == 0 && (year % 100 != 0 || year % 400 == 0)

/-- The lengths of the months of a year. -/
def monthLengths (leap : Bool) : List Nat :=
  [31, if leap then 29 else 28, 31, 30, 31, 30, 31, 31, 30, 31, 30, 31]

/-- The number of days before 1 January of the given year. -/
def daysBeforeYear (year : Nat) : Nat :=
  let past := year - 1
  365 * past + past / 4 - past / 100 + past / 400

/-- The number of days before the first of the given month in its year. -/
def daysBeforeMonth (leap : Bool) (month : Nat) : Nat :=
  ((monthLengths leap).take (month - 1)).foldl (· + ·) 0

namespace Date

/-- A date of the calendar: the year is one of 1 to 9999, and month and day exist in it. -/
def Valid (date : Date) : Prop :=
  1 ≤ date.year ∧ date.year < yearLimit ∧ 1 ≤ date.month ∧ date.month ≤ 12 ∧
    1 ≤ date.day ∧ date.day ≤ (monthLengths (isLeap date.year)).getD (date.month - 1) 0

instance (date : Date) : Decidable date.Valid := by unfold Valid; infer_instance

/-- The number of days from 1 January of year 1 to the date. -/
def dayNumber (date : Date) : Nat :=
  daysBeforeYear date.year + daysBeforeMonth (isLeap date.year) date.month + (date.day - 1)

end Date

/-- The year of a day: the average length of a year gives it, or one of its two neighbours. -/
def yearOf (dayNumber : Nat) : Nat :=
  let guess := dayNumber * 400 / 146097 + 1
  if dayNumber < daysBeforeYear guess then guess - 1
  else if daysBeforeYear (guess + 1) ≤ dayNumber then guess + 1
  else guess

/-- The month, counted from `month` on, and the day of the month of the day with the given number
within the months of these lengths. -/
def monthAndDay (month dayOfYear : Nat) : List Nat → Nat × Nat
  | [] => (month, dayOfYear + 1)
  | length :: more =>
    if dayOfYear < length then (month, dayOfYear + 1)
    else monthAndDay (month + 1) (dayOfYear - length) more

/-- The date of a day number. -/
def Date.ofDayNumber (dayNumber : Nat) : Date :=
  let year := yearOf dayNumber
  let (month, day) := monthAndDay 1 (dayNumber - daysBeforeYear year) (monthLengths (isLeap year))
  ⟨year, month, day⟩

end SyntaxReport.Calendar
