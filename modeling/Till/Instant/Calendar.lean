/-!
# The Gregorian calendar

Days are counted from 1970-01-01, years run in both directions, and the year 0 is the one before
the year 1.

* `Calendar.yearStart y` : the day on which the year `y` begins;
* `Calendar.dayNumber` : the day of a date;
* `Calendar.dateOf` : the date of a day, found by a guess at its year that is at most one year off
  and by walking through the months.
-/

namespace Till

namespace Calendar

/-- A date: year, month from 1 to 12, day of the month from 1. -/
structure Date where
  /-- The year. -/
  year : Int
  /-- The month, from 1 to 12. -/
  month : Nat
  /-- The day of the month, from 1. -/
  day : Nat
  deriving DecidableEq, Repr

/-- Every fourth year has a leap day, every hundredth does not, every four hundredth does. -/
def isLeap (year : Int) : Bool :=
  year % 4 == 0 && (year % 100 != 0 || year % 400 == 0)

/-- The lengths of the months of a year. -/
def monthLengths (year : Int) : List Nat :=
  [31, if isLeap year then 29 else 28, 31, 30, 31, 30, 31, 31, 30, 31, 30, 31]

/-- The number of days from 1970-01-01 to the first day of the year. -/
def yearStart (year : Int) : Int :=
  365 * (year - 1) + (year - 1) / 4 - (year - 1) / 100 + (year - 1) / 400 - 719162

/-- The day of a date, counted from 1970-01-01. -/
def dayNumber (d : Date) : Int :=
  let daysBefore : Nat := ((monthLengths d.year).take (d.month - 1)).foldr (· + ·) 0
  yearStart d.year + daysBefore + d.day - 1

/-- A date that exists. -/
def Date.isValid (d : Date) : Bool :=
  decide (1 ≤ d.month) && decide (1 ≤ d.day) &&
    match (monthLengths d.year)[d.month - 1]? with
    | some length => decide (d.day ≤ length)
    | none => false

/-- The year of a day. -/
def yearOf (day : Int) : Int :=
  let guess := (400 * (day + 719162)) / 146097 + 1
  if day < yearStart guess then guess - 1
  else if yearStart (guess + 1) ≤ day then guess + 1
  else guess

/-- The month, counted on from the given one, and the day of the month that a number of days leads
to. -/
def walkMonths (month : Nat) : List Nat → Nat → Nat × Nat
  | [], days => (month, days + 1)
  | length :: rest, days =>
    if days < length then (month, days + 1) else walkMonths (month + 1) rest (days - length)

/-- The date of a day. -/
def dateOf (day : Int) : Date :=
  let year := yearOf day
  let (month, dayOfMonth) := walkMonths 1 (monthLengths year) (day - yearStart year).toNat
  ⟨year, month, dayOfMonth⟩

end Calendar

end Till
