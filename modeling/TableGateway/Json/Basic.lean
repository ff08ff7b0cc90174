import TableGateway.Binary64.Basic

/-!
# JSON values

A JSON value is the content of a row field, of a statement's argument and of a message body. Numbers
are kept as they are written: an integer stays an integer, and any other number is a floating-point
number. The members of an object are kept in the order in which they are written out.
-/

namespace TableGateway

/-- A number: an integer, or a floating-point number that is finite. -/
inductive Json.Number where
  | integer (value : Int)
  | float (value : Binary64)
  deriving DecidableEq

/-- A JSON value. -/
inductive Json where
  | null
  | bool (value : Bool)
  | number (value : Json.Number)
  | string (value : String)
  | array (items : List Json)
  | object (members : List (String × Json))

namespace Json

/-- The kinds of JSON values. -/
inductive Kind where
  | null
  | boolean
  | number
  | string
  | array
  | object
  deriving DecidableEq

/-- The name of a kind in messages. -/
def Kind.name : Kind → String
  | .null => "null"
  | .boolean => "boolean"
  | .number => "number"
  | .string => "string"
  | .array => "array"
  | .object => "object"

/-- The kind of a value. -/
def kind : Json → Kind
  | null => .null
  | bool _ => .boolean
  | number _ => .number
  | string _ => .string
  | array _ => .array
  | object _ => .object

/-- A floating-point number as a value, if it is finite. -/
def ofBinary64? (x : Binary64) : Option Json :=
  if x.isFinite then some (number (.float x)) else none

end Json

end TableGateway
