import Mathlib.Tactic.IntervalCases
import TableGateway.Calendar.DateTime

/-!
# Days and their dates

The days of the calendar are numbered from the first of January 2000 on: the number of a date
counts the days of the years, of the months and of the month before it. The date that is
computed for a day exists, and its number is that day.
-/

namespace TableGateway

namespace Date

/-! ### The number of a date -/

/-- The number of leap years from year one to a year. -/
def leapYears (year : Int) : Int :=
  year / 4 - year / 100 + year / 400

/-- The number of days of a year before a month. -/
def daysBefore (year : Int) : Nat → Nat
  | 0 | 1 => 0
  | month + 2 => daysBefore year (month + 1) + daysInMonth year (month + 1)

/-- The number of days from the first of January 2000 to a date. -/
def dayNumber (date : Date) : Int :=
  365 * (date.year - 2000) + (leapYears (date.year - 1) - leapYears 1999)
    + daysBefore date.year date.month + (date.day - 1)

/-- The leap day of a year. -/
def leapDay (year : Int) : Nat :=
  if isLeap year then 1 else 0

theorem isLeap_iff {year : Int} :
  isLeap year = true ↔ year % 4 = 0 ∧ (year % 100 ≠ 0 ∨ year % 400 = 0)
  := by
  simp [isLeap]

/-- Leap years are counted one by one. -/
theorem leapYears_eq (year : Int) :
  leapYears year = leapYears (year - 1) + leapDay year
  := by
  rw [leapYears, leapYears, leapDay]
  have hleap := @isLeap_iff year
  split
  · rename_i h
    rw [hleap] at h
    omega
  · rename_i h
    rw [hleap] at h
    omega

/-- The days before a month, counted from March on as the months of a year that begins there. -/
theorem daysBefore_eq (year : Int) {month : Nat} (hlow : 1 ≤ month) (hhigh : month ≤ 12) :
  daysBefore year month
    = if month ≤ 2 then 31 * (month - 1) else (153 * (month - 3) + 2) / 5 + 59 + leapDay year
  := by
  interval_cases month <;> simp [daysBefore, daysInMonth, leapDay] <;> split <;> rfl

/-! ### Years that begin in March -/

/-- The date of a day of a year that begins on the first of March. -/
def ofMarchDay (year : Int) (day : Nat) : Date :=
  let month := (5 * day + 2) / 153
  let dayOfMonth := day - (153 * month + 2) / 5 + 1
  if month < 10 then ⟨year, month + 3, dayOfMonth⟩ else ⟨year + 1, month - 9, dayOfMonth⟩

/-- A day of such a year: the last one only if a leap day is in it. -/
def IsMarchDay (year : Int) (day : Nat) : Prop :=
  day ≤ 365 ∧ (day = 365 → isLeap (year + 1) = true)

/-- A month and a day of the month that a year has. -/
structure InYear (date : Date) : Prop where
  month : 1 ≤ date.month ∧ date.month ≤ 12
  day : 1 ≤ date.day ∧ date.day ≤ daysInMonth date.year date.month

theorem inYear_ofMarchDay {year : Int} {day : Nat} (h : IsMarchDay year day) :
  InYear (ofMarchDay year day)
  := by
  obtain ⟨hle, hleap⟩ := h
  have hmonth : (5 * day + 2) / 153 ≤ 11 := by omega
  have hstart : (153 * ((5 * day + 2) / 153) + 2) / 5 ≤ day := by omega
  have hend : day < (153 * ((5 * day + 2) / 153 + 1) + 2) / 5 := by omega
  rw [ofMarchDay]
  generalize (5 * day + 2) / 153 = month at *
  split
  · rename_i hspring
    constructor
    · dsimp only
      omega
    · dsimp only
      rw [daysInMonth]
      interval_cases month <;> simp <;> omega
  · rename_i hwinter
    constructor
    · dsimp only
      omega
    · dsimp only
      rw [daysInMonth]
      obtain rfl | rfl : month = 10 ∨ month = 11 := by omega
      · simp
        omega
      · by_cases hlast : day = 365
        · simp [hleap hlast, hlast]
        · simp
          split <;> omega

/-- The number of a day of a year that begins in March follows from the days of the years
before it. -/
theorem dayNumber_ofMarchDay {year : Int} {day : Nat} (h : IsMarchDay year day) :
  (ofMarchDay year day).dayNumber = 365 * year + leapYears year + day - 730425
  := by
  obtain ⟨hle, -⟩ := h
  have hleap := leapYears_eq year
  have hyear : leapYears 1999 = 484 := by decide
  have hmonth : (5 * day + 2) / 153 ≤ 11 := by omega
  have hstart : (153 * ((5 * day + 2) / 153) + 2) / 5 ≤ day := by omega
  rw [ofMarchDay]
  generalize (5 * day + 2) / 153 = month at *
  split
  · rename_i hspring
    rw [dayNumber, daysBefore_eq _ (by simp) (by dsimp only; omega)]
    dsimp only
    rw [if_neg (by omega), hyear]
    push_cast
    omega
  · rename_i hwinter
    rw [dayNumber, daysBefore_eq _ (by dsimp only; omega) (by dsimp only; omega)]
    dsimp only
    rw [if_pos (by omega), hyear, Int.add_sub_cancel]
    omega

/-! ### Cycles of four hundred years -/

/-- Of the leap years of a cycle twenty-four are in each century and one at its end. -/
theorem leapYears_cycle
    (cycle : Int) {century leapCycle year : Nat} (hcentury : century ≤ 3) (hleap : leapCycle ≤ 24)
    (hyear : year ≤ 3) :
  leapYears (cycle * 400 + (century * 100 + leapCycle * 4 + year : Nat))
    = 97 * cycle + 24 * century + leapCycle
  := by
  have hfours : (cycle * 400 + (century * 100 + leapCycle * 4 + year : Nat)) / 4
      = 100 * cycle + 25 * century + leapCycle := by omega
  have hhundreds : (cycle * 400 + (century * 100 + leapCycle * 4 + year : Nat)) / 100
      = 4 * cycle + century := by omega
  have hcycles : (cycle * 400 + (century * 100 + leapCycle * 4 + year : Nat)) / 400 = cycle := by
    omega
  rw [leapYears, hfours, hhundreds, hcycles]
  omega

theorem exists_ofMarchDay_eq (cycle : Int) {day : Nat} (hday : day < 146097) :
  ∃ year dayOfYear, ofCycleDay cycle day = ofMarchDay year dayOfYear ∧ IsMarchDay year dayOfYear
    ∧ 365 * year + leapYears year + dayOfYear = 146097 * cycle + day
  := by
  refine ⟨_, _, rfl, ⟨?_, ?_⟩, ?_⟩
  · omega
  · intro hlast
    rw [isLeap_iff]
    omega
  · rw [leapYears_cycle cycle (by omega) (by omega) (by omega)]
    omega

/-- The date of a day is in its year and has the number of the day. -/
theorem ofDays_spec (days : Int) :
  InYear (ofDays days) ∧ (ofDays days).dayNumber = days
  := by
  have hday : ((days + 730425) % 146097).toNat < 146097 := by omega
  obtain ⟨year, dayOfYear, heq, hmarch, hcount⟩ :=
    exists_ofMarchDay_eq ((days + 730425) / 146097) hday
  rw [ofDays, heq]
  constructor
  · apply inYear_ofMarchDay hmarch
  · rw [dayNumber_ofMarchDay hmarch]
    omega

/-! ### Dates of one number -/

theorem daysBefore_succ (year : Int) {month : Nat} (h : 1 ≤ month) :
  daysBefore year (month + 1) = daysBefore year month + daysInMonth year month
  := by
  obtain ⟨before, rfl⟩ := Nat.exists_eq_add_of_le' h
  rfl

theorem daysBefore_mono (year : Int) {month other : Nat} (h : month ≤ other) :
  daysBefore year month ≤ daysBefore year other
  := by
  induction h with
  | refl => rfl
  | @step other h ih =>
      apply ih.trans
      cases other with
      | zero => exact Nat.le_refl _
      | succ other =>
          change _ ≤ daysBefore year (other + 1 + 1)
          rw [daysBefore_succ year (Nat.le_add_left 1 other)]
          apply Nat.le_add_right

/-- A date is before all dates of the months after its own. -/
theorem daysBefore_add_day_le
    {date : Date} (h : InYear date) {month : Nat} (hmonth : date.month < month) :
  daysBefore date.year date.month + date.day ≤ daysBefore date.year month
  := by
  apply le_trans _ (daysBefore_mono date.year hmonth)
  rw [daysBefore_succ _ h.month.1]
  have hday := h.day.2
  omega

/-- A date is before all dates of the years after its own. -/
theorem dayNumber_lt_of_year_lt
    {date other : Date} (h : InYear date) (hother : InYear other) (hyear : date.year < other.year) :
  date.dayNumber < other.dayNumber
  := by
  have hend : daysBefore date.year date.month + date.day ≤ 365 + leapDay date.year := by
    have hmonth : date.month < 13 := Nat.lt_succ_iff.mpr h.month.2
    have hle := daysBefore_add_day_le h hmonth
    have hyearDays : daysBefore date.year 13 = 365 + leapDay date.year := by
      rw [daysBefore_succ _ (by omega), daysBefore_eq _ (by omega) (by omega), daysInMonth]
      simp
      omega
    omega
  have hday := hother.day.1
  have hleap := leapYears_eq date.year
  have hmono : leapYears date.year ≤ leapYears (other.year - 1) := by
    rw [leapYears, leapYears]
    omega
  rw [dayNumber, dayNumber]
  omega

/-- A date that a year has is determined by its number. -/
theorem eq_of_dayNumber
    {date other : Date} (h : InYear date) (hother : InYear other)
    (hnumber : date.dayNumber = other.dayNumber) :
  date = other
  := by
  obtain ⟨year, month, day⟩ := date
  obtain ⟨otherYear, otherMonth, otherDay⟩ := other
  obtain rfl : year = otherYear := by
    rcases Int.lt_trichotomy year otherYear with hlt | heq | hgt
    · have hless := dayNumber_lt_of_year_lt h hother hlt
      omega
    · exact heq
    · have hless := dayNumber_lt_of_year_lt hother h hgt
      omega
  rw [dayNumber, dayNumber] at hnumber
  have hday := h.day.1
  have hotherDay := hother.day.1
  dsimp only at hnumber hday hotherDay
  obtain rfl : month = otherMonth := by
    rcases Nat.lt_trichotomy month otherMonth with hlt | heq | hgt
    · have hle := daysBefore_add_day_le h hlt
      dsimp only at hle
      omega
    · exact heq
    · have hle := daysBefore_add_day_le hother hgt
      dsimp only at hle
      omega
  rw [mk.injEq]
  refine ⟨rfl, rfl, ?_⟩
  omega

end Date

/-! ### Times and instants -/

namespace TimeOfDay

/-- The number of nanoseconds from midnight to a time. -/
def nanoseconds (t : TimeOfDay) : Nat :=
  ((t.hour * 60 + t.minute) * 60 + t.second) * 1000000000 + t.nanosecond

/-- A time that every day has, not in a leap second. -/
structure InDay (t : TimeOfDay) : Prop where
  hour : t.hour < 24
  minute : t.minute < 60
  second : t.second < 60
  nanosecond : t.nanosecond < 1000000000

theorem inDay_midnight :
  InDay midnight
  := by
  constructor <;> decide

theorem eq_of_nanoseconds
    {t u : TimeOfDay} (ht : InDay t) (hu : InDay u) (h : t.nanoseconds = u.nanoseconds) :
  t = u
  := by
  obtain ⟨-, htm, hts, htn⟩ := ht
  obtain ⟨-, hum, hus, hun⟩ := hu
  obtain ⟨_, _, _, _⟩ := t
  obtain ⟨_, _, _, _⟩ := u
  rw [nanoseconds, nanoseconds] at h
  dsimp only at *
  rw [mk.injEq]
  omega

/-- The time after a number of microseconds is that number of them after midnight, modulo a
day. -/
theorem ofMicroseconds_spec (microseconds : Int) :
  InDay (ofMicroseconds microseconds)
    ∧ ((ofMicroseconds microseconds).nanoseconds : Int) = 1000 * (microseconds % 86400000000)
  := by
  have hcount : (microseconds % 86400000000).toNat < 86400000000 := by omega
  have hcast : ((microseconds % 86400000000).toNat : Int) = microseconds % 86400000000 := by omega
  rw [← hcast, ofMicroseconds]
  generalize (microseconds % 86400000000).toNat = count at *
  constructor
  · constructor <;> dsimp only <;> omega
  · rw [nanoseconds]
    dsimp only
    omega

theorem InDay.lt {t : TimeOfDay} (h : InDay t) :
  t.nanoseconds < 86400000000000
  := by
  obtain ⟨hhour, hminute, hsecond, hnanosecond⟩ := h
  rw [nanoseconds]
  omega

end TimeOfDay

namespace DateTime

/-- A date and time that is a number of nanoseconds after the start of the year 2000. -/
structure IsAt (t : DateTime) (nanoseconds : Int) : Prop where
  date : t.date.InYear
  time : t.time.InDay
  count : t.date.dayNumber * 86400000000000 + t.time.nanoseconds = nanoseconds

/-- A date and time is determined by the nanoseconds before it. -/
theorem IsAt.unique {t u : DateTime} {nanoseconds : Int} (ht : IsAt t nanoseconds)
    (hu : IsAt u nanoseconds) :
  t = u
  := by
  obtain ⟨date, time⟩ := t
  obtain ⟨otherDate, otherTime⟩ := u
  have hcount := ht.count.trans hu.count.symm
  have hlt := ht.time.lt
  have hlt' := hu.time.lt
  dsimp only at hcount hlt hlt'
  rw [mk.injEq]
  constructor
  · apply Date.eq_of_dayNumber ht.date hu.date
    dsimp only
    omega
  · apply TimeOfDay.eq_of_nanoseconds ht.time hu.time
    dsimp only
    omega

theorem ofMicroseconds_isAt (microseconds : Int) :
  IsAt (ofMicroseconds microseconds) (1000 * microseconds)
  := by
  obtain ⟨hdate, hnumber⟩ := Date.ofDays_spec (microseconds / 86400000000)
  obtain ⟨htime, hcount⟩ := TimeOfDay.ofMicroseconds_spec microseconds
  constructor
  · apply hdate
  · apply htime
  · rw [ofMicroseconds]
    dsimp only
    rw [hnumber, hcount]
    omega

theorem startOf_isAt (days : Int) :
  IsAt (startOf (.ofDays days)) (86400000000000 * days)
  := by
  obtain ⟨hdate, hnumber⟩ := Date.ofDays_spec days
  constructor
  · apply hdate
  · apply TimeOfDay.inDay_midnight
  · have hmidnight : TimeOfDay.midnight.nanoseconds = 0 := rfl
    rw [startOf]
    dsimp only
    rw [hnumber, hmidnight]
    omega

end DateTime

end TableGateway
