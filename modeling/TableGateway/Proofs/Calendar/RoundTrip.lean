import Mathlib.Data.List.Basic
import Mathlib.Data.List.TakeWhile
import Mathlib.Data.Option.Basic
import Mathlib.Tactic.Use
import TableGateway.Calendar.Reader
import TableGateway.Proofs.Text.Blank

/-!
# Reading dates and times that are written

A date, a time of day and a date with a time are read back from their texts. The text of an
instant is read as an instant, and the text of a date with or without a time is not: the
grammar of instants asks for an offset.
-/

namespace TableGateway

namespace Number

/-! ### Digits of a width -/

theorem isDigit_of_mem_padded {width n : Nat} {c : Char} (h : c ∈ padded width n) :
  c.isDigit = true
  := by
  rw [padded, List.mem_append, List.mem_replicate] at h
  rcases h with ⟨-, rfl⟩ | h
  · rfl
  · apply isDigit_of_mem_natDigits h

/-- Zeros in front change no number. -/
theorem ofDigitChars_padded (width n : Nat) :
  Nat.ofDigitChars 10 (padded width n) 0 = n
  := by
  rw [padded, Nat.ofDigitChars_append, Nat.ofDigitChars_replicate_zero]
  apply Nat.ofDigitChars_toDigits (by decide) (by decide)

theorem padded_ne_nil (width n : Nat) :
  padded width n ≠ []
  := by
  rw [padded, ne_eq, List.append_eq_nil_iff, not_and]
  intro _
  apply natDigits_ne_nil

/-- A number is read back from its digits with zeros in front. -/
theorem natOfDigits?_padded (width n : Nat) :
  natOfDigits? (padded width n) = some n
  := natOfDigits?_eq_some_iff.mpr
    ⟨padded_ne_nil width n, fun _ => isDigit_of_mem_padded, ofDigitChars_padded width n⟩

/-- A number that has room in a width is written with just that width. -/
theorem length_padded {width n : Nat} (hpos : 0 < width) (h : n < 10 ^ width) :
  (padded width n).length = width
  := by
  have hle : (natDigits n).length ≤ width := (Nat.length_toDigits_le_iff (by decide) hpos).mpr h
  rw [padded, List.length_append, List.length_replicate]
  omega

end Number

/-! ### Times and dates that exist -/

namespace TimeOfDay

theorem ofParts?_of_isValid {t : TimeOfDay} (h : t.isValid = true) :
  ofParts? t.hour t.minute t.second t.nanosecond = some t
  := if_pos h

theorem isValid_iff {t : TimeOfDay} :
  t.isValid = true ↔ t.hour < 24 ∧ t.minute < 60 ∧ t.second ≤ 60 ∧ t.nanosecond < 1000000000
  := by
  simp [isValid, and_assoc]

end TimeOfDay

namespace Date

/-- A time or a date that exists is made of its parts. -/
theorem ofParts?_of_isValid {date : Date} (h : date.isValid = true) :
  ofParts? date.year date.month date.day = some date
  := if_pos h

theorem isValid_iff {date : Date} :
  date.isValid = true ↔ isKnownYear date.year = true ∧ (1 ≤ date.month ∧ date.month ≤ 12)
    ∧ 1 ≤ date.day ∧ date.day ≤ daysInMonth date.year date.month
  := by
  simp [isValid, and_assoc]

theorem daysInMonth_le (year : Int) (month : Nat) :
  daysInMonth year month ≤ 31
  := by
  rw [daysInMonth]
  split
  · split <;> omega
  · split <;> omega

/-- The month and the day of a date that exists are written with two digits. -/
theorem month_lt_and_day_lt {date : Date} (h : date.isValid = true) :
  date.month < 100 ∧ date.day < 100
  := by
  obtain ⟨-, ⟨-, hmonth⟩, -, hday⟩ := isValid_iff.mp h
  have hdays := daysInMonth_le date.year date.month
  omega

end Date

namespace Calendar

open Number

/-! ### Numbers at the start of a text -/

/-- Digits are read up to a width, or up to what is no digit. -/
theorem digits?_append
    {digits rest : List Char} {width n : Nat} (hn : natOfDigits? digits = some n)
    (hend : digits.length = width
      ∨ digits.length ≤ width ∧ ∀ c ∈ rest.head?, c.isDigit = false) :
  digits? width (digits ++ rest) = some (n, rest)
  := by
  have hdigits := (natOfDigits?_eq_some_iff.mp hn).2.1
  have htaken : ((digits ++ rest).take width).takeWhile Char.isDigit = digits := by
    rcases hend with rfl | ⟨hle, hrest⟩
    · rw [List.take_left, List.takeWhile_eq_self_iff.mpr hdigits]
    · rw [List.take_append, List.take_of_length_le hle, List.takeWhile_append_of_pos hdigits]
      cases rest with
      | nil => simp
      | cons c others =>
          cases width - digits.length with
          | zero => simp
          | succ count =>
              rw [List.take_succ_cons, List.takeWhile_cons_of_neg, List.append_nil]
              simp [hrest c rfl]
  rw [digits?, htaken, hn, List.drop_left]
  rfl

/-- A number is read from its digits of a width. -/
theorem digits?_padded {width n : Nat} (hpos : 0 < width) (h : n < 10 ^ width) (rest : List Char) :
  digits? width (padded width n ++ rest) = some (n, rest)
  := digits?_append (natOfDigits?_padded width n) (.inl (length_padded hpos h))

/-- Digits of a fixed width are read back, whatever follows them. -/
theorem fixed?_padded {width n : Nat} (hpos : 0 < width) (h : n < 10 ^ width) (rest : List Char) :
  fixed? width (padded width n ++ rest) = some (n, rest)
  := by
  have hlength : rest.length + width = (padded width n ++ rest).length := by
    rw [List.length_append, length_padded hpos h, Nat.add_comm]
  rw [fixed?, digits?_padded hpos h]
  simp [hlength]

theorem head?_padded_append (width n : Nat) (rest : List Char) :
  ∀ c ∈ (padded width n ++ rest).head?, c.isDigit = true
  := by
  intro c hc
  rw [List.head?_append_of_ne_nil _ (padded_ne_nil width n)] at hc
  apply isDigit_of_mem_padded (List.mem_of_mem_head? hc)

theorem trimStart_padded (width n : Nat) (rest : List Char) :
  Text.trimStart (padded width n ++ rest) = padded width n ++ rest
  := by
  apply Text.dropWhile_eq_self
  intro c hc
  apply Text.isBlank_of_isDigit (head?_padded_append width n rest c hc)

/-- One or two digits are read back, whatever follows them. -/
theorem short?_padded {n : Nat} (h : n < 100) (rest : List Char) :
  short? (padded 2 n ++ rest) = some (n, rest)
  := by
  rw [short?, trimStart_padded, digits?_padded (by decide) h]

theorem literal?_self (c : Char) (rest : List Char) :
  literal? c (c :: rest) = some rest
  := if_pos rfl

/-! ### Fractions of a second -/

/-- The digits of a fraction stand for the nanoseconds that they are printed for. -/
theorem fraction?_padded
    {width n : Nat} {rest : List Char} (hpos : 0 < width) (hwidth : width ≤ 9)
    (h : n < 10 ^ width) (hrest : ∀ c ∈ rest.head?, c.isDigit = false) :
  fraction? ('.' :: (padded width n ++ rest)) = some (n * 10 ^ (9 - width), rest)
  := by
  have hlength := length_padded hpos h
  have hread : digits? 9 (padded width n ++ rest) = some (n, rest) := by
    apply digits?_append (natOfDigits?_padded width n)
    right
    use hlength.le.trans hwidth, hrest
  have hdropped : (padded width n ++ rest).length - rest.length = width := by
    rw [List.length_append, hlength, Nat.add_sub_cancel]
  have hnone : rest.dropWhile Char.isDigit = rest := Text.dropWhile_eq_self hrest
  simp only [fraction?, hread, Option.bind_eq_bind, Option.bind_some, hdropped, hnone]
  rfl

/-- A fraction of a second is read back, whichever of its forms it has. -/
theorem fraction?_fractionText
    {nanosecond : Nat} {rest : List Char} (h : nanosecond < 1000000000)
    (hrest : ∀ c ∈ rest.head?, c.isDigit = false ∧ c ≠ '.') :
  fraction? (TimeOfDay.fractionText nanosecond ++ rest) = some (nanosecond, rest)
  := by
  have hdigit : ∀ c ∈ rest.head?, c.isDigit = false := fun c hc => (hrest c hc).1
  rw [TimeOfDay.fractionText]
  split
  · rename_i hzero
    rw [List.nil_append, hzero, fraction?]
    rintro others rfl
    cases (hrest '.' rfl).2 rfl
  · split
    · rename_i hmillis
      have hscaled : nanosecond / 1000000 * 10 ^ (9 - 3) = nanosecond :=
        Nat.div_mul_cancel (Nat.dvd_of_mod_eq_zero hmillis)
      rw [List.cons_append, fraction?_padded (by decide) (by decide) (by omega) hdigit, hscaled]
    · split
      · rename_i hmicros
        have hscaled : nanosecond / 1000 * 10 ^ (9 - 6) = nanosecond :=
          Nat.div_mul_cancel (Nat.dvd_of_mod_eq_zero hmicros)
        rw [List.cons_append, fraction?_padded (by decide) (by decide) (by omega) hdigit, hscaled]
      · rw [List.cons_append, fraction?_padded (by decide) (by decide) h hdigit]
        simp

/-! ### Times of day -/

/-- A time that exists is read back from its text, also in a leap second. -/
theorem clock?_text {t : TimeOfDay} (h : t.isValid = true) :
  clock? t.text = some t
  := by
  obtain ⟨hhour, hminute, hsecond, hnanosecond⟩ := TimeOfDay.isValid_iff.mp h
  have hfraction := @fraction?_fractionText _ [] hnanosecond (by simp)
  rw [List.append_nil] at hfraction
  simp only [clock?, TimeOfDay.text, Option.bind_eq_bind, Option.bind_some,
    short?_padded (show t.hour < 100 by omega), short?_padded (show t.minute < 100 by omega),
    short?_padded (show t.second < 100 by omega), literal?_self, hfraction,
    TimeOfDay.ofParts?_of_isValid h]
  rfl

/-- A time is read back from its text. -/
theorem time?_text {t : TimeOfDay} (h : t.isValid = true) :
  time? t.text = some t
  := by
  rw [time?, clock?_text h, Option.some_or]

/-! ### Dates -/

/-- A year is read back up to the hyphen after it, with or without a sign. -/
theorem year?_yearText (year : Int) (rest : List Char) :
  year? (Date.yearText year ++ '-' :: rest) = some (year, '-' :: rest)
  := by
  have hhyphen : ∀ c ∈ ('-' :: rest).head?, c.isDigit = false := by
    rintro _ ⟨⟩
    rfl
  have hle : (padded 4 year.natAbs).length ≤ (padded 4 year.natAbs ++ '-' :: rest).length := by
    rw [List.length_append]
    apply Nat.le_add_right
  have hsigned := digits?_append (natOfDigits?_padded 4 year.natAbs) (.inr ⟨hle, hhyphen⟩)
  rw [Date.yearText]
  split
  · rename_i hplain
    have hread := @digits?_padded 4 year.natAbs (by decide) (by omega) ('-' :: rest)
    have hfirst := head?_padded_append 4 year.natAbs ('-' :: rest)
    have hvalue : (year.natAbs : Int) = year := by omega
    rw [year?, trimStart_padded]
    split
    · rename_i hminus
      rw [hminus] at hfirst
      cases hfirst '-' rfl
    · rename_i hplus
      rw [hplus] at hfirst
      cases hfirst '+' rfl
    · simp only [hread, Option.map_some, hvalue]
  · rename_i hwide
    split
    · rename_i hnegative
      have hvalue : -(year.natAbs : Int) = year := by omega
      have hstart : Text.trimStart ('-' :: padded 4 year.natAbs ++ '-' :: rest)
          = '-' :: (padded 4 year.natAbs ++ '-' :: rest) := rfl
      simp only [year?, hstart, hsigned, Option.map_some, hvalue]
    · rename_i hpositive
      have hvalue : (year.natAbs : Int) = year := by omega
      have hstart : Text.trimStart ('+' :: padded 4 year.natAbs ++ '-' :: rest)
          = '+' :: (padded 4 year.natAbs ++ '-' :: rest) := rfl
      simp only [year?, hstart, hsigned, Option.map_some, hvalue]

/-- A date that exists is read back from its text, whatever comes after it. -/
theorem date?_text {date : Date} (h : date.isValid = true) (rest : List Char) :
  date? (date.text ++ rest) = some (date, rest)
  := by
  obtain ⟨hmonth, hday⟩ := Date.month_lt_and_day_lt h
  simp only [date?, Date.text, List.append_assoc, List.cons_append, year?_yearText,
    Option.bind_eq_bind, Option.bind_some, literal?_self,
    short?_padded hmonth, short?_padded hday,
    Date.ofParts?_of_isValid h]
  rfl

/-- A date with a time is read back from its text. -/
theorem dateTime?_text
    {t : DateTime} (hdate : t.date.isValid = true) (htime : t.time.isValid = true) :
  dateTime? t.text = some t
  := by
  rw [dateTime?, DateTime.text, date?_text hdate]
  simp only [Option.bind_eq_bind, Option.bind_some, clock?_text htime]
  rfl

/-- A date alone stands for its start. -/
theorem dateTime?_dateText {date : Date} (h : date.isValid = true) :
  dateTime? date.text = some (.startOf date)
  := by
  have hread := date?_text h []
  rw [List.append_nil] at hread
  rw [dateTime?, hread]
  rfl

/-! ### Instants -/

/-- A year of four digits and no sign. -/
def IsPlainYear (year : Int) : Prop :=
  0 ≤ year ∧ year ≤ 9999

/-- A text is no instant if it does not begin with a digit. -/
theorem instant?_of_not_isDigit {c : Char} (rest : List Char) (hc : c.isDigit = false) :
  instant? (c :: rest) = none
  := by
  have hdigits : digits? 4 (c :: rest) = none := by
    rw [digits?, List.take_succ_cons, List.takeWhile_cons_of_neg (by simp [hc])]
    rfl
  rw [instant?, fixed?, hdigits]
  rfl

/-- A plain year is written with four digits and no sign. -/
theorem yearText_of_isPlainYear {year : Int} (h : IsPlainYear year) :
  Date.yearText year = padded 4 year.natAbs
  := if_pos h

theorem fixed?_two {n : Nat} (h : n < 100) (rest : List Char) :
  fixed? 2 (padded 2 n ++ rest) = some (n, rest)
  := fixed?_padded (by decide) h rest

/-- The text of a date with a time is read as an instant if an offset comes after it. -/
theorem instant?_text_append
    {t : DateTime} (hdate : t.date.isValid = true) (hyear : IsPlainYear t.date.year)
    (htime : t.time.isValid = true) {zone : List Char}
    (hzone : ∀ c ∈ zone.head?, c.isDigit = false ∧ c ≠ '.') :
  instant? (t.text ++ zone) = (offset? zone).map t.earlier
  := by
  obtain ⟨hmonth, hday⟩ := Date.month_lt_and_day_lt hdate
  obtain ⟨hhour, hminute, hsecond, hnanosecond⟩ := TimeOfDay.isValid_iff.mp htime
  have hvalue : (t.date.year.natAbs : Int) = t.date.year := Int.natAbs_of_nonneg hyear.1
  have hwidth : t.date.year.natAbs < 10 ^ 4 := by
    have hle := hyear.2
    omega
  simp only [DateTime.text, Date.text, yearText_of_isPlainYear hyear, TimeOfDay.text,
    List.append_assoc, List.cons_append]
  rw [instant?]
  dsimp only [Option.bind_eq_bind]
  rw [fixed?_padded (by decide) hwidth, Option.bind_some, literal?_self, Option.bind_some,
    fixed?_two hmonth, Option.bind_some, literal?_self, Option.bind_some, fixed?_two hday,
    Option.bind_some]
  dsimp only
  rw [guard, if_pos (.inl rfl)]
  dsimp only [Option.pure_def, Option.bind_some]
  rw [fixed?_two (by omega), Option.bind_some, literal?_self, Option.bind_some,
    fixed?_two (by omega), Option.bind_some, literal?_self, Option.bind_some,
    fixed?_two (by omega), Option.bind_some, fraction?_fractionText hnanosecond hzone,
    Option.bind_some, hvalue, Date.ofParts?_of_isValid hdate, TimeOfDay.ofParts?_of_isValid htime]
  cases offset? zone <;> rfl

/-- Without an offset a date and time stays as it is. -/
theorem earlier_zero {t : DateTime} (htime : t.time.isValid = true) :
  t.earlier 0 = t
  := by
  obtain ⟨hhour, hminute, -, -⟩ := TimeOfDay.isValid_iff.mp htime
  have hhours : (((t.time.hour : Int) * 60 + t.time.minute - 0) / 60).toNat = t.time.hour := by
    omega
  have hminutes : (((t.time.hour : Int) * 60 + t.time.minute - 0) % 60).toNat = t.time.minute := by
    omega
  rw [DateTime.earlier, if_neg (by omega), if_neg (by omega), DateTime.moved, hhours, hminutes]

/-- An instant is read back from its text. -/
theorem instant?_instantText
    {t : DateTime} (hdate : t.date.isValid = true) (hyear : IsPlainYear t.date.year)
    (htime : t.time.isValid = true) :
  instant? t.instantText = some t
  := by
  have hoffset : offset? ['+', '0', '0', ':', '0', '0'] = some 0 := by decide
  rw [DateTime.instantText, instant?_text_append hdate hyear htime, hoffset, Option.map_some,
    earlier_zero htime]
  rintro _ ⟨⟩
  decide

/-- A year that is not plain begins with a sign. -/
theorem exists_yearText_eq_cons {year : Int} (h : ¬ IsPlainYear year) :
  ∃ c digits, Date.yearText year = c :: digits ∧ c.isDigit = false
  := by
  rw [IsPlainYear] at h
  rw [Date.yearText, if_neg h]
  split
  · use '-', padded 4 year.natAbs, rfl
    rfl
  · use '+', padded 4 year.natAbs, rfl
    rfl

/-- No instant is read from a date whose year has a sign. -/
theorem instant?_of_not_isPlainYear {date : Date} (h : ¬ IsPlainYear date.year) (rest : List Char) :
  instant? (date.text ++ rest) = none
  := by
  obtain ⟨c, digits, heq, hc⟩ := exists_yearText_eq_cons h
  rw [Date.text, heq, List.append_assoc, List.cons_append]
  apply instant?_of_not_isDigit _ hc

/-- The text of a date with a time is not the text of an instant. -/
theorem instant?_text
    {t : DateTime} (hdate : t.date.isValid = true) (htime : t.time.isValid = true) :
  instant? t.text = none
  := by
  by_cases hyear : IsPlainYear t.date.year
  · have hread := @instant?_text_append t hdate hyear htime [] (by simp)
    rw [List.append_nil] at hread
    rw [hread]
    rfl
  · apply instant?_of_not_isPlainYear hyear

/-- The text of a date is not the text of an instant. -/
theorem instant?_dateText {date : Date} (h : date.isValid = true) :
  instant? date.text = none
  := by
  by_cases hyear : IsPlainYear date.year
  · obtain ⟨hmonth, hday⟩ := Date.month_lt_and_day_lt h
    have hwidth : date.year.natAbs < 10 ^ 4 := by
      have hlow := hyear.1
      have hle := hyear.2
      omega
    have hend := fixed?_two hday []
    rw [List.append_nil] at hend
    rw [Date.text, yearText_of_isPlainYear hyear, instant?]
    dsimp only [Option.bind_eq_bind]
    rw [fixed?_padded (by decide) hwidth, Option.bind_some, literal?_self, Option.bind_some,
      fixed?_two hmonth, Option.bind_some, literal?_self, Option.bind_some, hend,
      Option.bind_some]
  · have hnone := instant?_of_not_isPlainYear hyear []
    rw [List.append_nil] at hnone
    apply hnone

/-! ### Texts without white space -/

theorem withoutBlank_padded (width n : Nat) :
  Text.WithoutBlank (padded width n)
  := fun _ h => Text.isBlank_of_isDigit (isDigit_of_mem_padded h)

/-- The text of a time has no blank. -/
theorem withoutBlank_timeText (t : TimeOfDay) :
  Text.WithoutBlank t.text
  := by
  have hcolon : Text.isBlank ':' = false := by decide
  have hpoint : Text.isBlank '.' = false := by decide
  have hfraction : Text.WithoutBlank (TimeOfDay.fractionText t.nanosecond) := by
    rw [TimeOfDay.fractionText]
    split
    · simp [Text.WithoutBlank]
    · split
      · apply Text.withoutBlank_cons_iff.mpr ⟨hpoint, withoutBlank_padded _ _⟩
      · split
        · apply Text.withoutBlank_cons_iff.mpr ⟨hpoint, withoutBlank_padded _ _⟩
        · apply Text.withoutBlank_cons_iff.mpr ⟨hpoint, withoutBlank_padded _ _⟩
  simp only [TimeOfDay.text, Text.withoutBlank_append_iff, Text.withoutBlank_cons_iff,
    withoutBlank_padded, hcolon, hfraction, and_self]

theorem withoutBlank_dateText (date : Date) :
  Text.WithoutBlank date.text
  := by
  have hhyphen : Text.isBlank '-' = false := by decide
  have hplus : Text.isBlank '+' = false := by decide
  have hyear : Text.WithoutBlank (Date.yearText date.year) := by
    rw [Date.yearText]
    split
    · apply withoutBlank_padded
    · split
      · apply Text.withoutBlank_cons_iff.mpr ⟨hhyphen, withoutBlank_padded _ _⟩
      · apply Text.withoutBlank_cons_iff.mpr ⟨hplus, withoutBlank_padded _ _⟩
  simp only [Date.text, Text.withoutBlank_append_iff, Text.withoutBlank_cons_iff,
    withoutBlank_padded, hhyphen, hyear, and_self]

/-- The text of a date and time has no blank. -/
theorem withoutBlank_text (t : DateTime) :
  Text.WithoutBlank t.text
  := by
  have hletter : Text.isBlank 'T' = false := by decide
  simp only [DateTime.text, Text.withoutBlank_append_iff, Text.withoutBlank_cons_iff,
    withoutBlank_dateText, withoutBlank_timeText, hletter, and_self]

theorem withoutBlank_instantText (t : DateTime) :
  Text.WithoutBlank t.instantText
  := by
  have hoffset : Text.WithoutBlank ['+', '0', '0', ':', '0', '0'] := by decide
  rw [DateTime.instantText, Text.withoutBlank_append_iff]
  use withoutBlank_text t, hoffset

end Calendar

end TableGateway
