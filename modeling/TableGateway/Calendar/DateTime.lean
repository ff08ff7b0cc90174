import TableGateway.Calendar.Date
import TableGateway.Calendar.TimeOfDay

/-!
# Dates with times

A date with a time of day stands on its own, or for the instant at which it is that date and time at
offset zero.
-/

namespace TableGateway

/-- A date and a time of day. -/
structure DateTime where
  date : Date
  time : TimeOfDay
  deriving DecidableEq

namespace DateTime

/-- The first time of a date. -/
def startOf (date : Date) : DateTime :=
  ⟨date, .midnight⟩

/-- The date and time a number of microseconds after the start of the year 2000. -/
def ofMicroseconds (microseconds : Int) : DateTime :=
  ⟨.ofDays (microseconds / 86400000000), .ofMicroseconds microseconds⟩

/-- The date and time with another date and minute of the day. -/
def moved (t : DateTime) (date : Date) (minuteOfDay : Int) : DateTime where
  date := date
  time := { t.time with hour := (minuteOfDay / 60).toNat, minute := (minuteOfDay % 60).toNat }

/-- The date and time a number of minutes earlier, less than a day. -/
def earlier (t : DateTime) (minutes : Int) : DateTime :=
  let total : Int := t.time.hour * 60 + t.time.minute - minutes
  if total < 0 then t.moved t.date.previous (total + 1440)
  else if 1440 ≤ total then t.moved t.date.next (total - 1440)
  else t.moved t.date total

/-- The text of a date and time, with the letter T between them. -/
def text (t : DateTime) : List Char :=
  t.date.text ++ 'T' :: t.time.text

/-- The text of the instant at which it is a date and time at offset zero. -/
def instantText (t : DateTime) : List Char :=
  t.text ++ ['+', '0', '0', ':', '0', '0']

end DateTime

end TableGateway
