import TableGateway.Query.Operator
import TableGateway.RequestError

/-!
# Queries

A query says which rows of which tables a request is about: a primary table, joined tables, columns,
conditions and row bounds. The values of its conditions are text as the request gave it.
-/

namespace TableGateway

/-- A reference to a column, with the table it is qualified by and the name it is returned under, if
it has them. -/
structure ColumnRef where
  qualifier : Option String
  name : String
  label : Option String
  deriving DecidableEq

namespace ColumnRef

/-- The column as it stands in a statement, without the name it is returned under. -/
def text (column : ColumnRef) : String :=
  match column.qualifier with
  | some qualifier => qualifier ++ "." ++ column.name
  | none => column.name

/-- The table that a reference names: the table it is qualified by, or the primary table. -/
def table (column : ColumnRef) (primary : String) : String :=
  column.qualifier.getD primary

end ColumnRef

/-- A condition on a column. A null test has no values, and any other operator has at least one. -/
structure Condition where
  column : ColumnRef
  operator : Operator
  values : List String
  valid : values.isEmpty = operator.isNullTest
  deriving DecidableEq

namespace Condition

/-- The column and the operator of a condition, for messages. -/
def description (column : ColumnRef) (operator : Operator) : String :=
  column.text ++ " " ++ operator.sql

/-- The condition with the given parts, unless they do not agree in whether there are values. -/
def make (column : ColumnRef) (operator : Operator) (values : List String) :
    Except RequestError Condition :=
  if valid : values.isEmpty = operator.isNullTest then .ok ⟨column, operator, values, valid⟩
  else if operator.isNullTest then .error (.unexpectedValues (description column operator))
  else .error (.noValues (description column operator))

end Condition

/-- The kinds of joins. -/
inductive JoinKind where
  | plain
  | inner
  | left
  | right
  deriving DecidableEq

namespace JoinKind

/-- The spelling of a join in a statement. -/
def sql : JoinKind → String
  | plain => "JOIN"
  | inner => "INNER JOIN"
  | left => "LEFT JOIN"
  | right => "RIGHT JOIN"

/-- The keyword of a join in a request. -/
def keyword : JoinKind → String
  | plain => "join"
  | inner => "inner_join"
  | left => "left_join"
  | right => "right_join"

/-- The join that a keyword stands for. -/
def ofKeyword? (word : String) : Option JoinKind :=
  [plain, inner, left, right].find? (·.keyword = word)

/-- Every kind of join is found by its keyword. -/
theorem ofKeyword?_keyword (kind : JoinKind) :
  ofKeyword? kind.keyword = some kind
  := by
  cases kind <;> decide

end JoinKind

/-- A join with a table on the equality of two columns. -/
structure Join where
  kind : JoinKind
  table : String
  left : ColumnRef
  right : ColumnRef
  deriving DecidableEq

/-- The relation of a join as a request writes it. -/
def Join.relation (join : Join) : String :=
  join.table ++ ":" ++ join.left.text ++ "==" ++ join.right.text

/-- A query. Its tables are the primary table and the joined tables, each once; without columns it is
about all columns. -/
structure Query where
  table : String
  tables : List String
  columns : List ColumnRef
  conditions : List Condition
  joins : List Join
  limit : Option Nat
  offset : Option Nat
  deriving DecidableEq

namespace Query

/-- The query about all rows of a table. -/
def ofTable (table : String) : Query where
  table := table
  tables := [table]
  columns := []
  conditions := []
  joins := []
  limit := none
  offset := none

/-- Whether a table is one of the query's. -/
def includesTable (query : Query) (table : String) : Bool :=
  query.tables.contains table

/-- The query with a join, whose table becomes one of the query's. -/
def addJoin (query : Query) (join : Join) : Query :=
  let tables :=
    if query.includesTable join.table then query.tables else query.tables ++ [join.table]
  { query with tables, joins := query.joins ++ [join] }

end Query

end TableGateway
