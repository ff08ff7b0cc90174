import TableGateway.Database.Cell
import TableGateway.Proofs.Calendar.DayNumber
import TableGateway.Proofs.Calendar.RoundTrip
import TableGateway.Proofs.Database.Integers
import TableGateway.Proofs.Text.Encoding
import TableGateway.Proofs.Uuid

/-!
# Cells that are sent back

A cell that is shown and then sent back to a column of its type is bound as the value that it
holds: the same integer, truth value, identifier or text, the same time, or the same date and
time with or without an offset. A date is bound as its first moment.

What a cell holds is said in the units in which the database counts, and there is only one such
value.
-/

namespace TableGateway

/-! ### Dates and times that exist -/

theorem Date.InYear.isValid
    {date : Date} (h : date.InYear) (hyear : isKnownYear date.year = true) :
  date.isValid = true
  := isValid_iff.mpr ⟨hyear, h.month, h.day⟩

theorem TimeOfDay.InDay.isValid {t : TimeOfDay} (h : t.InDay) :
  t.isValid = true
  := isValid_iff.mpr ⟨h.hour, h.minute, h.second.le, h.nanosecond⟩

namespace Cell

open Calendar

/-! ### What a cell holds -/

/-- The value that a cell holds, as a parameter. Times are counted in nanoseconds from midnight,
dates with and without a time from the start of the year 2000. -/
inductive Holds : Cell → Parameter.Value → Prop
  | integer (n : Int64) : Holds (.integer n) (.integer n)
  | boolean (b : Bool) : Holds (.boolean b) (.boolean b)
  | uuid (u : Uuid) : Holds (.uuid u) (.uuid u)
  | instant {microseconds : Int64} {t : DateTime} (h : t.IsAt (1000 * microseconds.toInt)) :
      Holds (.instant microseconds) (.instant t)
  | timestamp {microseconds : Int64} {t : DateTime} (h : t.IsAt (1000 * microseconds.toInt)) :
      Holds (.timestamp microseconds) (.timestamp t)
  | date {days : Int32} {t : DateTime} (h : t.IsAt (86400000000000 * days.toInt)) :
      Holds (.date days) (.timestamp t)
  | time {microseconds : Int64} {t : TimeOfDay} (h : t.InDay)
      (hcount : (t.nanoseconds : Int) = 1000 * microseconds.toInt) :
      Holds (.time microseconds) (.time t)
  | text {octets : List UInt8} {s : String} (h : Text.utf8Octets s.toList = octets) :
      Holds (.text octets) (.text s)
  | other {octets : List UInt8} {s : String} (h : Text.utf8Octets s.toList = octets) :
      Holds (.other octets) (.text s)

/-- The greatest time of the database, which is written `24:00:00`. -/
def fullDay : Int64 :=
  86400000000

/-- The types of columns that a cell can be sent back to. Instants need a year of four digits, and
times are those that the database has. -/
inductive Corresponds : Cell → ColumnType → Prop
  | int (n : Int64) : Corresponds (.integer n) .int
  | bigint (n : Int64) : Corresponds (.integer n) .bigint
  | boolean (b : Bool) : Corresponds (.boolean b) .boolean
  | uuid (u : Uuid) : Corresponds (.uuid u) .uuid
  | instant {microseconds : Int64}
      (hyear : IsPlainYear (DateTime.ofMicroseconds microseconds.toInt).date.year) :
      Corresponds (.instant microseconds) .timestamp
  | timestamp (microseconds : Int64) : Corresponds (.timestamp microseconds) .timestamp
  | date (days : Int32) : Corresponds (.date days) .timestamp
  | time {microseconds : Int64} (hfirst : 0 ≤ microseconds) (hlast : microseconds ≤ fullDay) :
      Corresponds (.time microseconds) .time
  | text (octets : List UInt8) : Corresponds (.text octets) .string
  | other (octets : List UInt8) : Corresponds (.other octets) .string

theorem eq_of_utf8Octets {s u : String} (h : Text.utf8Octets s.toList = Text.utf8Octets u.toList) :
  s = u
  := by
  have hs := Text.textOfUtf8?_utf8Octets s.toList
  rw [h, Text.textOfUtf8?_utf8Octets, Option.some.injEq] at hs
  apply (String.toList_inj.mp hs).symm

/-- A cell holds one value. -/
theorem Holds.unique
    {cell : Cell} {value other : Parameter.Value} (h : cell.Holds value)
    (hother : cell.Holds other) :
  value = other
  := by
  cases h with
  | integer => cases hother; rfl
  | boolean => cases hother; rfl
  | uuid => cases hother; rfl
  | instant h =>
      cases hother with
      | instant h' => rw [h.unique h']
  | timestamp h =>
      cases hother with
      | timestamp h' => rw [h.unique h']
  | date h =>
      cases hother with
      | date h' => rw [h.unique h']
  | time h hcount =>
      cases hother with
      | time h' hcount' =>
          have hsame := hcount.trans hcount'.symm
          rw [TimeOfDay.eq_of_nanoseconds h h' (by exact_mod_cast hsame)]
  | text h =>
      cases hother with
      | text h' => rw [eq_of_utf8Octets (h.trans h'.symm)]
  | other h =>
      cases hother with
      | other h' => rw [eq_of_utf8Octets (h.trans h'.symm)]

/-- A full day after midnight there is no time of the day. -/
theorem not_holds_fullDay (value : Parameter.Value) :
  ¬ (time fullDay).Holds value
  := by
  intro h
  cases h with
  | time hday hcount =>
      have hlt := hday.lt
      have hfull : fullDay.toInt = 86400000000 := by decide
      rw [hfull] at hcount
      omega

/-! ### Dates and times that are shown -/

/-- A date and time whose year is known exists. -/
theorem knownDateTime?_spec {microseconds : Int64} {t : DateTime}
    (h : knownDateTime? microseconds = some t) :
  t = DateTime.ofMicroseconds microseconds.toInt ∧ t.date.isValid = true ∧ t.time.isValid = true
  := by
  obtain ⟨hyear, heq⟩ := Option.ite_none_right_eq_some.mp h
  obtain rfl := Option.some.inj heq
  have hat := DateTime.ofMicroseconds_isAt microseconds.toInt
  use rfl, hat.date.isValid hyear, hat.time.isValid

theorem knownDate?_spec {days : Int32} {date : Date} (h : knownDate? days = some date) :
  date = .ofDays days.toInt ∧ date.isValid = true
  := by
  obtain ⟨hyear, heq⟩ := Option.ite_none_right_eq_some.mp h
  obtain rfl := Option.some.inj heq
  use rfl, (Date.ofDays_spec days.toInt).1.isValid hyear

/-! ### Texts that are sent back -/

/-- A text without white space is bound to a column of timestamps as what it writes. -/
theorem bind?_timestamp {text : List Char} (h : Text.WithoutBlank text) :
  Argument.bind? ⟨ofChars text, .timestamp⟩
    = (Parameter.Value.ofTimestampText? text).map .value
  := by
  have hbind : Argument.bind? ⟨ofChars text, .timestamp⟩
      = (Parameter.Value.ofTimestampText?
        (Text.trim (String.ofList text).toList)).map .value := rfl
  rw [hbind, String.toList_ofList, h.trim_eq]

/-- The text of an instant is bound as the instant. -/
theorem bind?_instantText
    {t : DateTime} (hdate : t.date.isValid = true) (hyear : IsPlainYear t.date.year)
    (htime : t.time.isValid = true) :
  Argument.bind? ⟨ofChars t.instantText, .timestamp⟩ = some (.value (.instant t))
  := by
  rw [bind?_timestamp (withoutBlank_instantText t), Parameter.Value.ofTimestampText?,
    instant?_instantText hdate hyear htime]
  rfl

/-- The text of a date with a time but without an offset is bound as it. -/
theorem bind?_timestampText
    {t : DateTime} (hdate : t.date.isValid = true) (htime : t.time.isValid = true) :
  Argument.bind? ⟨ofChars t.text, .timestamp⟩ = some (.value (.timestamp t))
  := by
  rw [bind?_timestamp (withoutBlank_text t), Parameter.Value.ofTimestampText?,
    instant?_text hdate htime, dateTime?_text hdate htime]
  rfl

/-- The text of a date is bound as its first moment. -/
theorem bind?_dateText {date : Date} (h : date.isValid = true) :
  Argument.bind? ⟨ofChars date.text, .timestamp⟩ = some (.value (.timestamp (.startOf date)))
  := by
  rw [bind?_timestamp (withoutBlank_dateText date), Parameter.Value.ofTimestampText?,
    instant?_dateText h, dateTime?_dateText h]
  rfl

theorem bind?_timeText {t : TimeOfDay} (h : t.isValid = true) :
  Argument.bind? ⟨ofChars t.text, .time⟩ = some (.value (.time t))
  := by
  have hbind : Argument.bind? ⟨ofChars t.text, .time⟩
      = ((time? (Text.trim (String.ofList t.text).toList)).map
        Parameter.Value.time).map .value := rfl
  rw [hbind, String.toList_ofList, (withoutBlank_timeText t).trim_eq, time?_text h]
  rfl

theorem bind?_uuidText (u : Uuid) :
  Argument.bind? ⟨.string u.text, .uuid⟩ = some (.value (.uuid u))
  := by
  have hbind : Argument.bind? ⟨.string u.text, .uuid⟩
      = ((Uuid.ofText? (Text.trim u.text.toList)).map Parameter.Value.uuid).map .value := rfl
  rw [hbind, u.withoutBlank_text.trim_eq, u.ofText?_text]
  rfl

/-- An integer of sixty-four bits is bound as it is. -/
theorem bind?_integer {type : ColumnType} (htype : type = .int ∨ type = .bigint) (n : Int64) :
  Argument.bind? ⟨.number (.integer n.toInt), type⟩ = some (.value (.integer n))
  := by
  have hbind : Argument.bind? ⟨.number (.integer n.toInt), type⟩
      = (Parameter.Value.ofInt? n.toInt).map .value := by
    rcases htype with rfl | rfl <;> rfl
  rw [hbind, Argument.ofInt?_eq_some_iff.mpr ⟨n, rfl, rfl⟩]
  rfl

/-- Octets are shown as the text that they encode, and bound as it to a column of strings. -/
theorem exists_bind?_octets
    {octets : List UInt8} {json : Json} (h : (Text.textOfUtf8? octets).map ofChars = some json) :
  ∃ s : String, Argument.bind? ⟨json, .string⟩ = some (.value (.text s))
    ∧ Text.utf8Octets s.toList = octets
  := by
  obtain ⟨text, htext, rfl⟩ := Option.map_eq_some_iff.mp h
  use String.ofList text, rfl
  rw [String.toList_ofList]
  apply Text.textOfUtf8?_eq_some_iff.mp htext

/-! ### Cells that are sent back -/

/-- What becomes of a cell that is sent back: it is bound as the value that it holds, but a full
day after midnight as midnight. -/
inductive BoundAs : Cell → Parameter.Value → Prop
  | held {cell : Cell} {value : Parameter.Value} (h : cell.Holds value) : BoundAs cell value
  | midnight : BoundAs (.time fullDay) (.time .midnight)

theorem boundAs_time {microseconds : Int64} (hfirst : 0 ≤ microseconds)
    (hlast : microseconds ≤ fullDay) :
  BoundAs (.time microseconds) (.time (.ofMicroseconds microseconds.toInt))
  := by
  rw [Int64.le_iff_toInt_le] at hfirst hlast
  have hfull : fullDay.toInt = 86400000000 := by decide
  by_cases hless : microseconds.toInt < 86400000000
  · obtain ⟨hday, hcount⟩ := TimeOfDay.ofMicroseconds_spec microseconds.toInt
    rw [Int.emod_eq_of_lt hfirst hless] at hcount
    apply BoundAs.held (.time hday hcount)
  · obtain rfl : microseconds = fullDay := by
      apply Int64.toInt_inj.mp
      omega
    exact BoundAs.midnight

theorem exists_bound
    {cell : Cell} {json : Json} (hjson : cell.toJson? = some json) {type : ColumnType}
    (htype : cell.Corresponds type) :
  ∃ value, Argument.bind? ⟨json, type⟩ = some (.value value) ∧ cell.BoundAs value
  := by
  cases htype with
  | int n =>
      cases hjson
      exact ⟨_, bind?_integer (.inl rfl) n, .held (.integer n)⟩
  | bigint n =>
      cases hjson
      exact ⟨_, bind?_integer (.inr rfl) n, .held (.integer n)⟩
  | boolean b =>
      cases hjson
      exact ⟨_, rfl, .held (.boolean b)⟩
  | uuid u =>
      cases hjson
      exact ⟨_, bind?_uuidText u, .held (.uuid u)⟩
  | @instant microseconds hyear =>
      obtain ⟨t, hknown, rfl⟩ := Option.map_eq_some_iff.mp hjson
      obtain ⟨rfl, hdate, htime⟩ := knownDateTime?_spec hknown
      exact ⟨_, bind?_instantText hdate hyear htime,
        .held (.instant (DateTime.ofMicroseconds_isAt _))⟩
  | timestamp microseconds =>
      obtain ⟨t, hknown, rfl⟩ := Option.map_eq_some_iff.mp hjson
      obtain ⟨rfl, hdate, htime⟩ := knownDateTime?_spec hknown
      exact ⟨_, bind?_timestampText hdate htime,
        .held (.timestamp (DateTime.ofMicroseconds_isAt _))⟩
  | date days =>
      obtain ⟨date, hknown, rfl⟩ := Option.map_eq_some_iff.mp hjson
      obtain ⟨rfl, hdate⟩ := knownDate?_spec hknown
      exact ⟨_, bind?_dateText hdate, .held (.date (DateTime.startOf_isAt _))⟩
  | @time microseconds hfirst hlast =>
      cases hjson
      obtain ⟨hday, -⟩ := TimeOfDay.ofMicroseconds_spec microseconds.toInt
      exact ⟨_, bind?_timeText hday.isValid, boundAs_time hfirst hlast⟩
  | text octets =>
      obtain ⟨s, hbind, hoctets⟩ := exists_bind?_octets hjson
      exact ⟨_, hbind, .held (.text hoctets)⟩
  | other octets =>
      obtain ⟨s, hbind, hoctets⟩ := exists_bind?_octets hjson
      exact ⟨_, hbind, .held (.other hoctets)⟩

/-- A cell that is shown is bound, sent back to a column that corresponds to it, as the one
value that it holds. Only a full day after midnight is bound as midnight instead. -/
theorem bound_as_shown
    {cell : Cell} {json : Json} (hjson : cell.toJson? = some json) {type : ColumnType}
    (htype : cell.Corresponds type) :
  ∃ value, Argument.bind? ⟨json, type⟩ = some (.value value)
    ∧ (cell ≠ .time fullDay → cell.Holds value ∧ ∀ other, cell.Holds other → other = value)
    ∧ (cell = .time fullDay → value = .time .midnight)
  := by
  obtain ⟨value, hbind, hbound⟩ := exists_bound hjson htype
  use value, hbind
  cases hbound with
  | held hvalue =>
      constructor
      · intro _
        use hvalue
        intro other hother
        apply hother.unique hvalue
      · rintro rfl
        cases not_holds_fullDay value hvalue
  | midnight =>
      constructor
      · intro h
        cases h rfl
      · intro _
        rfl

/-- A moment of the year 2024 is shown with its milliseconds, and bound as it. -/
theorem bound_as_shown_moment :
  (instant 768817800250000).toJson? = some (.string "2024-05-12T08:30:00.250+00:00")
    ∧ (instant 768817800250000).Corresponds .timestamp
    ∧ ∃ value, Argument.bind? ⟨.string "2024-05-12T08:30:00.250+00:00", .timestamp⟩
        = some (.value value) ∧ (instant 768817800250000).Holds value
      ∧ ∀ other, (instant 768817800250000).Holds other → other = value
  := by
  have hjson : (instant 768817800250000).toJson?
      = some (.string "2024-05-12T08:30:00.250+00:00") := rfl
  have htype : (instant 768817800250000).Corresponds .timestamp := by
    constructor
    constructor <;> decide +kernel
  obtain ⟨value, hbind, hheld, -⟩ := bound_as_shown hjson htype
  have hmoment : instant 768817800250000 ≠ time fullDay := by
    intro h
    cases h
  use hjson, htype, value, hbind
  apply hheld hmoment

/-- A full day after midnight is a time of the database. It is shown as midnight and bound as it,
though it is not the time of the cell. -/
theorem full_day_bound_as_midnight :
  (time fullDay).toJson? = some (.string "00:00:00")
    ∧ (time fullDay).Corresponds .time
    ∧ Argument.bind? ⟨.string "00:00:00", .time⟩ = some (.value (.time .midnight))
    ∧ ¬ (time fullDay).Holds (.time .midnight)
  := by
  use rfl
  constructor
  · constructor <;> decide
  · exact ⟨rfl, not_holds_fullDay _⟩

end Cell

end TableGateway
