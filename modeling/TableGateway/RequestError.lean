import TableGateway.Json.Basic
import TableGateway.Number.Integer

/-!
# Request errors

The causes for which a request is refused before a statement is made of it: a text that does not
follow the grammar of queries, a body that has not the right shape, names that the catalog does not
have, and changes of whole tables.
-/

namespace TableGateway

/-- The statements that change a table. -/
inductive Change where
  | insert
  | update
  | delete
  deriving DecidableEq

/-- The name of a change in messages. -/
def Change.name : Change → String
  | .insert => "insert"
  | .update => "update"
  | .delete => "delete"

/-- The clauses that bound the number of rows. -/
inductive RowBound where
  | limit
  | offset
  deriving DecidableEq

/-- The keyword of a row bound. -/
def RowBound.keyword : RowBound → String
  | .limit => "limit"
  | .offset => "offset"

/-- The shapes of body that a request may need. -/
inductive PayloadShape where
  | rows
  | rowItem
  | row
  deriving DecidableEq

/-- The description of a body's shape in messages. -/
def PayloadShape.description : PayloadShape → String
  | .rows => "a JSON object or an array of JSON objects"
  | .rowItem => "an array of JSON objects"
  | .row => "a JSON object"

/-- The cause for which a request is refused. -/
inductive RequestError where
  | invalidPath (path : String)
  | invalidClause (clause : String)
  | emptyCondition
  | invalidKeyword (keyword : String)
  | invalidOperator (condition : String)
  | noValues (condition : String)
  | unexpectedValues (condition : String)
  | invalidColumn (spec : String)
  | invalidJoin (relation : String)
  | invalidNumber (bound : RowBound) (value : String)
  | invalidEncoding (text : String)
  | joinUnsupported (change : Change)
  | emptyPayload (change : Change)
  | columnMismatch (row : Nat)
  | invalidPayload (expected : PayloadShape) (found : Json.Kind)
  | tableNotFound (table : String)
  | columnNotFound (table column : String)
  | unjoinedTable (table : String)
  | ambiguousColumn (column : String)
  | noConditions
  deriving DecidableEq

namespace RequestError

/-- The text that describes an error. -/
def message : RequestError → String
  | invalidPath path => "invalid path: " ++ path
  | invalidClause clause => "invalid clause: " ++ clause
  | emptyCondition => "invalid clause: where: empty condition"
  | invalidKeyword keyword => "invalid clause keyword: " ++ keyword
  | invalidOperator condition => "invalid operator in condition: " ++ condition
  | noValues condition => "condition with no values: " ++ condition
  | unexpectedValues condition => "null check takes no values: " ++ condition
  | invalidColumn spec => "invalid column: " ++ spec
  | invalidJoin relation => "invalid join relation: " ++ relation
  | invalidNumber bound value => "invalid " ++ bound.keyword ++ " value: " ++ value
  | invalidEncoding text => "invalid percent-encoding: " ++ text
  | joinUnsupported change => "join is not supported for " ++ change.name
  | emptyPayload change => change.name ++ " requires at least one column value"
  | columnMismatch row =>
    "row " ++ Number.natText row ++ " does not match the columns of the first row"
  | invalidPayload expected found =>
    "payload must be " ++ expected.description ++ ", got " ++ found.name
  | tableNotFound table => "table does not exist: " ++ table
  | columnNotFound table column => "column does not exist: " ++ table ++ "." ++ column
  | unjoinedTable table => "table is not part of the query: " ++ table
  | ambiguousColumn column => "column is ambiguous across joined tables: " ++ column
  | noConditions => "no conditions provided"

/-- The code of an error for programs. -/
def code : RequestError → String
  | invalidPath _ => "INVALID_PATH"
  | invalidClause _ | emptyCondition => "INVALID_CLAUSE"
  | invalidKeyword _ => "INVALID_KEYWORD"
  | invalidOperator _ => "INVALID_OPERATOR"
  | noValues _ => "NO_VALUES"
  | unexpectedValues _ => "UNEXPECTED_VALUES"
  | invalidColumn _ => "INVALID_COLUMN"
  | invalidJoin _ => "INVALID_JOIN"
  | invalidNumber .. => "INVALID_NUMBER"
  | invalidEncoding _ => "INVALID_ENCODING"
  | joinUnsupported _ => "UNSUPPORTED_CLAUSE"
  | emptyPayload _ => "EMPTY_PAYLOAD"
  | columnMismatch _ => "COLUMN_MISMATCH"
  | invalidPayload .. => "INVALID_PAYLOAD"
  | tableNotFound _ => "TABLE_NOT_FOUND"
  | columnNotFound .. => "COLUMN_NOT_FOUND"
  | unjoinedTable _ => "UNJOINED_TABLE"
  | ambiguousColumn _ => "AMBIGUOUS_COLUMN"
  | noConditions => "NO_CONDITIONS"

/-- The status of the response to a request with an error: a missing table is not found, and every
other error is a bad request. -/
def status : RequestError → Nat
  | tableNotFound _ => 404
  | _ => 400

/-- Whether the request disagrees with the catalog. -/
def isSchemaMismatch : RequestError → Bool
  | tableNotFound _ | columnNotFound .. | unjoinedTable _ | ambiguousColumn _ => true
  | _ => false

/-- Whether the request would have changed a whole table. -/
def isNoConditions : RequestError → Bool
  | noConditions => true
  | _ => false

end RequestError

end TableGateway
