import TableGateway.Binary64.Text
import TableGateway.Calendar.Reader
import TableGateway.Catalog.Coercion
import TableGateway.Database.Parameter
import TableGateway.Decimal.Reader
import TableGateway.Json.Printer
import TableGateway.Sql.Statement
import TableGateway.Text.Percent

/-!
# Binding

The arguments of a statement are turned into parameters by the types of their columns. A column of
strings takes every value, and a column of JSON takes it as it is. Any other column takes a string that
writes one of its values, and columns of numbers or truth values take such values as well. A null is
taken by every column. The first argument that its column does not take is reported by its number.
-/

namespace TableGateway

/-- An argument that its column does not take, with its number. -/
structure BindingError where
  number : Nat
  argument : Argument

/-- The text that describes an argument that its column does not take. -/
def BindingError.message (e : BindingError) : String :=
  "argument $" ++ Number.natText e.number ++ ": invalid " ++ e.argument.type.name ++ " value: " ++
    e.argument.value.compact

namespace Parameter.Value

/-- An integer of sixty-four bits. -/
def ofInt? (n : Int) : Option Value :=
  if Number.isInt64 n then some (.integer (.ofInt n)) else none

/-- The value of a number for a column. -/
def ofNumber? (type : ColumnType) (n : Json.Number) : Option Value :=
  match type, n with
  | .int, .integer n | .bigint, .integer n => ofInt? n
  | .float, .integer n => some (.float (.ofInt n))
  | .float, .float x => some (.float x)
  | .decimal, n => (Decimal.ofText? n.text.toList).map .decimal
  | _, _ => none

/-- An instant if the text has an offset, and a timestamp otherwise. -/
def ofTimestampText? (text : List Char) : Option Value :=
  ((Calendar.instant? text).map .instant).or ((Calendar.dateTime? text).map .timestamp)

/-- The value that a string writes for a column. White space around it is ignored where it can be no
part of the value. -/
def ofString? (type : ColumnType) (s : String) : Option Value :=
  let trimmed := Text.trim s.toList
  match type with
  | .string => some (.text s)
  | .int | .bigint => (Number.int64? trimmed).bind ofInt?
  | .float => (Binary64.ofText? trimmed).map .float
  | .decimal => (Decimal.ofText? trimmed).map .decimal
  | .boolean => (boolOfWord? s.toList).map .boolean
  | .json => some (.json (.string s))
  | .uuid => (Uuid.ofText? trimmed).map .uuid
  | .timestamp => ofTimestampText? trimmed
  | .time => (Calendar.time? trimmed).map .time
  | .bytes => some (.bytes (Text.utf8Octets s.toList))

/-- The value of a JSON value that is not null, for a column. -/
def ofJson? (type : ColumnType) (value : Json) : Option Value :=
  match type, value with
  | type, .string s => ofString? type s
  | .string, value => some (.text value.compact)
  | .json, value => some (.json value)
  | type, .number n => ofNumber? type n
  | .boolean, .bool b => some (.boolean b)
  | _, _ => none

end Parameter.Value

/-- The parameter for an argument. -/
def Argument.bind? (argument : Argument) : Option Parameter :=
  match argument.value with
  | .null => some (.null argument.type.parameterKind)
  | value => (Parameter.Value.ofJson? argument.type value).map .value

/-- The parameters for arguments, of which the first has a given number. -/
def Argument.bindFrom (number : Nat) : List Argument → Except BindingError (List Parameter)
  | [] => .ok []
  | argument :: rest =>
    match argument.bind? with
    | none => .error ⟨number, argument⟩
    | some parameter => do
      let parameters ← bindFrom (number + 1) rest
      return parameter :: parameters

/-- The parameters for the arguments of a statement. -/
def Argument.bindAll (arguments : List Argument) : Except BindingError (List Parameter) :=
  bindFrom 1 arguments

end TableGateway
