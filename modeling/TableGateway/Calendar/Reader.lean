import TableGateway.Calendar.DateTime
import TableGateway.Number.Power
import TableGateway.Text.Blank

/-!
# Reading dates and times

There are two grammars. The strict one is that of instants with an offset, `2024-03-01T10:30:00Z`,
where every number has its full width. In the free one, of dates and times without an offset, numbers
may lack leading zeros and follow blanks, and a year with a sign may have any number of digits.
-/

namespace TableGateway.Calendar

/-- The digits at the start of a text, at most `width`, as a number, and the rest. -/
def digits? (width : Nat) (text : List Char) : Option (Nat × List Char) :=
  let digits := (text.take width).takeWhile Char.isDigit
  (Number.natOfDigits? digits).map (·, text.drop digits.length)

/-- A number of exactly `width` digits, and the rest. -/
def fixed? (width : Nat) (text : List Char) : Option (Nat × List Char) := do
  let (n, rest) ← digits? width text
  guard (rest.length + width = text.length)
  return (n, rest)

/-- A number of one or two digits after blanks, and the rest. -/
def short? (text : List Char) : Option (Nat × List Char) :=
  digits? 2 (Text.trimStart text)

/-- The rest after a character. -/
def literal? (c : Char) : List Char → Option (List Char)
  | d :: rest => if d = c then some rest else none
  | [] => none

/-- The nanoseconds of the fraction of a second after a point, or none without a point, and the rest.
Digits after the ninth are dropped. -/
def fraction? : List Char → Option (Nat × List Char)
  | '.' :: text => do
    let (n, rest) ← digits? 9 text
    return (n * 10 ^ (9 - (text.length - rest.length)), rest.dropWhile Char.isDigit)
  | text => some (0, text)

/-! ### The strict grammar -/

/-- An offset in minutes: `Z`, or a sign with hours and minutes. The sign of a negative offset is a
hyphen or the minus character. -/
def offset? (text : List Char) : Option Int := do
  let hoursAndMinutes (text : List Char) : Option Int := do
    let (hours, text) ← fixed? 2 text
    let text ← literal? ':' text
    let (minutes, text) ← fixed? 2 text
    guard (text.isEmpty ∧ hours < 24 ∧ minutes < 60)
    return (hours * 60 + minutes : Nat)
  match text with
  | ['Z'] | ['z'] => return 0
  | '+' :: rest => hoursAndMinutes rest
  | '-' :: rest | '−' :: rest => return -(← hoursAndMinutes rest)
  | _ => none

/-- The instant that a text writes, as the date and time at offset zero. -/
def instant? (text : List Char) : Option DateTime := do
  let (year, text) ← fixed? 4 text
  let text ← literal? '-' text
  let (month, text) ← fixed? 2 text
  let text ← literal? '-' text
  let (day, text) ← fixed? 2 text
  let c :: text := text | none
  guard (c = 'T' ∨ c = 't' ∨ c = ' ')
  let (hour, text) ← fixed? 2 text
  let text ← literal? ':' text
  let (minute, text) ← fixed? 2 text
  let text ← literal? ':' text
  let (second, text) ← fixed? 2 text
  let (nanosecond, text) ← fraction? text
  let offset ← offset? text
  let date ← Date.ofParts? year month day
  let time ← TimeOfDay.ofParts? hour minute second nanosecond
  return DateTime.earlier ⟨date, time⟩ offset

/-! ### The free grammar -/

/-- A year after blanks: at most four digits, or a sign and any number of digits, and the rest. -/
def year? (text : List Char) : Option (Int × List Char) :=
  match Text.trimStart text with
  | '-' :: rest => (digits? rest.length rest).map fun (n, rest) => (-n, rest)
  | '+' :: rest => (digits? rest.length rest).map fun (n, rest) => (n, rest)
  | text => (digits? 4 text).map fun (n, rest) => (n, rest)

/-- A date, and the rest. -/
def date? (text : List Char) : Option (Date × List Char) := do
  let (year, text) ← year? text
  let text ← literal? '-' text
  let (month, text) ← short? text
  let text ← literal? '-' text
  let (day, text) ← short? text
  let date ← Date.ofParts? year month day
  return (date, text)

/-- An hour, a minute, a second and a fraction of it, and nothing more. -/
def clock? (text : List Char) : Option TimeOfDay := do
  let (hour, text) ← short? text
  let text ← literal? ':' text
  let (minute, text) ← short? text
  let text ← literal? ':' text
  let (second, text) ← short? text
  let (nanosecond, text) ← fraction? text
  guard text.isEmpty
  TimeOfDay.ofParts? hour minute second nanosecond

/-- An hour and a minute, and nothing more. -/
def shortClock? (text : List Char) : Option TimeOfDay := do
  let (hour, text) ← short? text
  let text ← literal? ':' text
  let (minute, text) ← short? text
  guard text.isEmpty
  TimeOfDay.ofParts? hour minute 0 0

/-- A date and time with the letter T or blanks between them, or a date alone, which stands for its
start. -/
def dateTime? (text : List Char) : Option DateTime := do
  let (date, rest) ← date? text
  match rest with
  | [] => return .startOf date
  | 'T' :: rest => return ⟨date, ← clock? rest⟩
  | _ => return ⟨date, ← clock? rest⟩

/-- A time of day with or without seconds. -/
def time? (text : List Char) : Option TimeOfDay :=
  (clock? text).or (shortClock? text)

end TableGateway.Calendar
