import TableGateway.Text.Ascii
import TableGateway.Text.Cut

/-!
# Column types

A column type says how the values of a column are written in a request and sent to the database. It
has a name in catalog files, which know a few synonyms, and stands for a family of database types.
-/

namespace TableGateway

/-- The type of a column. -/
inductive ColumnType where
  | string
  | int
  | bigint
  | float
  | decimal
  | boolean
  | json
  | timestamp
  | time
  | uuid
  | bytes
  deriving DecidableEq

namespace ColumnType

/-- The name of a column type. -/
def name : ColumnType → String
  | string => "string"
  | int => "int"
  | bigint => "bigint"
  | float => "float"
  | decimal => "decimal"
  | boolean => "boolean"
  | json => "json"
  | timestamp => "timestamp"
  | time => "time"
  | uuid => "uuid"
  | bytes => "bytes"

/-- Every column type. -/
def all : List ColumnType :=
  [string, int, bigint, float, decimal, boolean, json, timestamp, time, uuid, bytes]

/-- The column type with a given name. -/
def ofName? (text : String) : Option ColumnType :=
  all.find? (·.name = text)

/-- Every type is found by its name. -/
theorem ofName?_name (t : ColumnType) :
  ofName? t.name = some t
  := by
  cases t <;> decide

/-- The column type that a catalog file writes, by its name or a synonym. -/
def ofDeclared? (text : String) : Option ColumnType :=
  match text with
  | "text" => some string
  | "integer" => some int
  | "double" => some float
  | "numeric" => some decimal
  | "bool" => some boolean
  | "jsonb" => some json
  | "date" => some timestamp
  | _ => ofName? text

/-- Every type may be declared by its name. -/
theorem ofDeclared?_name (t : ColumnType) :
  ofDeclared? t.name = some t
  := by
  cases t <;> decide

/-- The column type of a database type, in any case. Types that begin with `timestamp` or `time` are
such types with or without a time zone; a type that is not known is a string. -/
def ofDatabase (text : String) : ColumnType :=
  let word := Text.lower text.toList
  match String.ofList word with
  | "smallint" | "integer" | "int2" | "int4" => int
  | "bigint" | "int8" => bigint
  | "real" | "double precision" | "float4" | "float8" => float
  | "numeric" | "decimal" | "money" => decimal
  | "boolean" | "bool" => boolean
  | "json" | "jsonb" => json
  | "uuid" => uuid
  | "bytea" => bytes
  | "date" => timestamp
  | _ =>
    if "timestamp".toList.isPrefixOf word then timestamp
    else if "time".toList.isPrefixOf word then time
    else string

end ColumnType

end TableGateway
