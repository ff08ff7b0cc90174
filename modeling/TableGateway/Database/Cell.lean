import TableGateway.Binary64.Basic
import TableGateway.Calendar.DateTime
import TableGateway.Database.Numeric
import TableGateway.Decimal.Binary
import TableGateway.Json.Reader
import TableGateway.Text.Percent
import TableGateway.Uuid

/-!
# Cells

A cell is a value that the database returns. It is shown as a JSON value: numbers as numbers, and
everything else that JSON does not have as its text. A cell that cannot be shown is an error, never a
null; only numbers that are not finite become one.
-/

namespace TableGateway

/-- A value of one of the database's types. Timestamps and times are counted in microseconds from the
start of the year 2000 or of the day, dates in days from the start of that year, and money in hundredths.
Text and JSON are given by their octets; `other` is the text of a type that is not text itself. -/
inductive Cell where
  | integer (value : Int64)
  | real (bits : UInt32)
  | float (value : Binary64)
  | numeric (value : Numeric)
  | money (cents : Int64)
  | boolean (value : Bool)
  | json (octets : List UInt8)
  | uuid (value : Uuid)
  | instant (microseconds : Int64)
  | timestamp (microseconds : Int64)
  | date (days : Int32)
  | time (microseconds : Int64)
  | text (octets : List UInt8)
  | other (octets : List UInt8)

namespace Cell

/-- A floating-point number, or a null if it is not finite. -/
def ofFloat (x : Binary64) : Json :=
  (Json.ofBinary64? x).getD .null

/-- A string of characters. -/
def ofChars (text : List Char) : Json :=
  .string (String.ofList text)

/-- A date and time whose year is known. -/
def knownDateTime? (microseconds : Int64) : Option DateTime :=
  let t := DateTime.ofMicroseconds microseconds.toInt
  if Date.isKnownYear t.date.year then some t else none

/-- A date whose year is known. -/
def knownDate? (days : Int32) : Option Date :=
  let date := Date.ofDays days.toInt
  if Date.isKnownYear date.year then some date else none

/-- The JSON value of a cell. -/
def toJson? : Cell → Option Json
  | integer n => some (.number (.integer n.toInt))
  | real bits => some (ofFloat (.ofBinary32 bits))
  | float x => some (ofFloat x)
  | numeric n => n.toDecimal?.map Decimal.toJson
  | money cents =>
    (Decimal.ofParts? (cents.toInt < 0) cents.toInt.natAbs 2).map Decimal.toJson
  | boolean b => some (.bool b)
  | json octets => (Text.textOfUtf8? octets).bind Json.ofText?
  | uuid u => some (.string u.text)
  | instant microseconds => (knownDateTime? microseconds).map fun t => ofChars t.instantText
  | timestamp microseconds => (knownDateTime? microseconds).map fun t => ofChars t.text
  | date days => (knownDate? days).map fun date => ofChars date.text
  | time microseconds => some (ofChars (TimeOfDay.ofMicroseconds microseconds.toInt).text)
  | text octets | other octets => (Text.textOfUtf8? octets).map ofChars

end Cell

end TableGateway
