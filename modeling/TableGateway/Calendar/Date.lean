import TableGateway.Number.Integer

/-!
# Dates

Dates of the Gregorian calendar, extended to all years: year zero precedes year one. Days are counted
in cycles of four hundred years that begin in March, so that a leap day is the last day of a year of
such a cycle.
-/

namespace TableGateway

/-- A year, a month and a day of the month. -/
structure Date where
  year : Int
  month : Nat
  day : Nat
  deriving DecidableEq

namespace Date

/-- Whether February of a year has twenty-nine days. -/
def isLeap (year : Int) : Bool :=
  year % 4 == 0 && (year % 100 != 0 || year % 400 == 0)

/-- The number of days of a month. -/
def daysInMonth (year : Int) (month : Nat) : Nat :=
  if month = 2 then if isLeap year then 29 else 28
  else if month = 4 ∨ month = 6 ∨ month = 9 ∨ month = 11 then 30
  else 31

/-- The years that dates may have. -/
def isKnownYear (year : Int) : Bool :=
  -262143 ≤ year && year ≤ 262142

/-- Whether a date exists. -/
def isValid (date : Date) : Bool :=
  isKnownYear date.year && 1 ≤ date.month && date.month ≤ 12 &&
    1 ≤ date.day && date.day ≤ daysInMonth date.year date.month

/-- The date with the given parts, if it exists. -/
def ofParts? (year : Int) (month day : Nat) : Option Date :=
  let date : Date := ⟨year, month, day⟩
  if date.isValid then some date else none

/-- The day after a date. -/
def next (date : Date) : Date :=
  if date.day < daysInMonth date.year date.month then { date with day := date.day + 1 }
  else if date.month < 12 then ⟨date.year, date.month + 1, 1⟩
  else ⟨date.year + 1, 1, 1⟩

/-- The day before a date. -/
def previous (date : Date) : Date :=
  if 1 < date.day then { date with day := date.day - 1 }
  else if 1 < date.month then
    ⟨date.year, date.month - 1, daysInMonth date.year (date.month - 1)⟩
  else ⟨date.year - 1, 12, 31⟩

/-- The date of a day of a cycle of four hundred years, which begins on the first of March. -/
def ofCycleDay (cycle : Int) (day : Nat) : Date :=
  let century := min (day / 36524) 3
  let dayOfCentury := day - century * 36524
  let leapCycle := dayOfCentury / 1461
  let dayOfLeapCycle := dayOfCentury % 1461
  let yearOfLeapCycle := min (dayOfLeapCycle / 365) 3
  let dayOfYear := dayOfLeapCycle - yearOfLeapCycle * 365
  let year : Int := cycle * 400 + (century * 100 + leapCycle * 4 + yearOfLeapCycle : Nat)
  let monthOfYear := (5 * dayOfYear + 2) / 153
  let dayOfMonth := dayOfYear - (153 * monthOfYear + 2) / 5 + 1
  if monthOfYear < 10 then ⟨year, monthOfYear + 3, dayOfMonth⟩
  else ⟨year + 1, monthOfYear - 9, dayOfMonth⟩

/-- The date of a day, counted from the first of January 2000. -/
def ofDays (days : Int) : Date :=
  let count := days + 730425
  ofCycleDay (count / 146097) (count % 146097).toNat

/-- The text of a year: four digits, or a sign and at least four digits outside the years from zero
to 9999. -/
def yearText (year : Int) : List Char :=
  let digits := Number.padded 4 year.natAbs
  if 0 ≤ year ∧ year ≤ 9999 then digits
  else (if year < 0 then '-' else '+') :: digits

/-- The text of a date: year, month and day with hyphens between them. -/
def text (date : Date) : List Char :=
  yearText date.year ++ '-' :: (Number.padded 2 date.month ++ '-' :: Number.padded 2 date.day)

end Date

end TableGateway
