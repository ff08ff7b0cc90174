import TableGateway.Binary64.Basic
import TableGateway.Calendar.DateTime
import TableGateway.Catalog.ColumnType
import TableGateway.Decimal.Basic
import TableGateway.Json.Basic
import TableGateway.Uuid

/-!
# Parameters

A parameter is what the database receives in place of a placeholder: a value of one of its types, or
a null that has such a type too. The type of a null follows from the column alone, so that a column of
numbers never receives a null of text.
-/

namespace TableGateway

namespace Parameter

/-- The types of parameters. -/
inductive Kind where
  | text
  | integer
  | float
  | decimal
  | boolean
  | json
  | uuid
  | instant
  | timestamp
  | time
  | bytes
  deriving DecidableEq

/-- The database's name of a type of parameters. -/
def Kind.databaseName : Kind → String
  | .text => "TEXT"
  | .integer => "INT8"
  | .float => "FLOAT8"
  | .decimal => "NUMERIC"
  | .boolean => "BOOL"
  | .json => "JSONB"
  | .uuid => "UUID"
  | .instant => "TIMESTAMPTZ"
  | .timestamp => "TIMESTAMP"
  | .time => "TIME"
  | .bytes => "BYTEA"

/-- The value of a parameter that is not null. An instant is given as the date and time that it is at
offset zero. -/
inductive Value where
  | text (text : String)
  | integer (value : Int64)
  | float (value : Binary64)
  | decimal (value : Decimal)
  | boolean (value : Bool)
  | json (value : Json)
  | uuid (value : Uuid)
  | instant (value : DateTime)
  | timestamp (value : DateTime)
  | time (value : TimeOfDay)
  | bytes (octets : List UInt8)

/-- The type of a value. -/
def Value.kind : Value → Kind
  | text _ => .text
  | integer _ => .integer
  | float _ => .float
  | decimal _ => .decimal
  | boolean _ => .boolean
  | json _ => .json
  | uuid _ => .uuid
  | instant _ => .instant
  | timestamp _ => .timestamp
  | time _ => .time
  | bytes _ => .bytes

end Parameter

/-- A value for a placeholder, or a null of some type. -/
inductive Parameter where
  | null (kind : Parameter.Kind)
  | value (value : Parameter.Value)

/-- The type of a parameter. -/
def Parameter.kind : Parameter → Kind
  | null kind => kind
  | value v => v.kind

/-- The type of parameters that a null for a column has. -/
def ColumnType.parameterKind : ColumnType → Parameter.Kind
  | string => .text
  | int | bigint => .integer
  | float => .float
  | decimal => .decimal
  | boolean => .boolean
  | json => .json
  | uuid => .uuid
  | timestamp => .instant
  | time => .time
  | bytes => .bytes

end TableGateway
