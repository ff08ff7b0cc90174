import TableGateway.Number.Integer
import TableGateway.Query.Basic

/-!
# Commands

A command is what a statement of SQL says, before it is spelled out: which tables, columns and rows
it is about, and where its arguments go. An argument is named by its number, which is spelled as a
placeholder; no value of a request is part of a command.
-/

namespace TableGateway.Sql

/-- The place of an argument, by its number. -/
def placeholder (number : Nat) : String :=
  "$" ++ Number.natText number

/-- A placeholder is a dollar sign before the digits of its number. -/
theorem toList_placeholder (n : Nat) :
  (placeholder n).toList = '$' :: Number.natDigits n
  := by
  rw [placeholder, String.toList_append, Number.natText, String.toList_ofList,
    String.toList_ofList]
  rfl

/-- A condition on rows, with the numbers of the arguments that the column is compared with. -/
structure Predicate where
  column : ColumnRef
  operator : Operator
  arguments : List Nat
  deriving DecidableEq

namespace Predicate

/-- A comparison of the column with one argument. -/
def comparison (predicate : Predicate) (argument : Nat) : String :=
  predicate.column.text ++ " " ++ predicate.operator.sql ++ " " ++ placeholder argument

/-- The text of a condition. A membership lists its arguments between parentheses. Any other operator
with several arguments holds if it holds for one of them. -/
def text (predicate : Predicate) : String :=
  let start := predicate.column.text ++ " " ++ predicate.operator.sql
  if predicate.operator.isNullTest then start
  else if predicate.operator.isMembership then
    start ++ " (" ++ ",".intercalate (predicate.arguments.map placeholder) ++ ")"
  else
    match predicate.arguments with
    | [argument] => predicate.comparison argument
    | arguments => "(" ++ " OR ".intercalate (arguments.map predicate.comparison) ++ ")"

end Predicate

/-- The text of conditions that hold together. -/
def conjunction (predicates : List Predicate) : String :=
  " AND ".intercalate (predicates.map Predicate.text)

/-- The conditions of a command after their keyword, if there are any. -/
def whereText (predicates : List Predicate) : String :=
  if predicates.isEmpty then "" else " WHERE " ++ conjunction predicates

/-- The text of a column to return, with the name it is returned under. -/
def selectedText (column : ColumnRef) : String :=
  match column.label with
  | some label => column.text ++ " AS " ++ label
  | none => column.text

/-- The text of the columns to return; without any these are all columns. -/
def projectionText (columns : List ColumnRef) : String :=
  if columns.isEmpty then "*" else ", ".intercalate (columns.map selectedText)

/-- The text of a join. -/
def joinText (join : Join) : String :=
  " " ++ join.kind.sql ++ " " ++ join.table ++ " ON " ++ join.left.text ++ " = " ++ join.right.text

/-- The text of a row bound after its keyword, if there is one. -/
def boundText (keyword : String) : Option Nat → String
  | some rows => " " ++ keyword ++ " " ++ Number.natText rows
  | none => ""

/-- The text of one row of arguments. -/
def tupleText (arguments : List Nat) : String :=
  "(" ++ ",".intercalate (arguments.map placeholder) ++ ")"

/-- The text of an assignment of an argument to a column. -/
def assignmentText (assignment : String × Nat) : String :=
  assignment.1 ++ " = " ++ placeholder assignment.2

/-- A command. -/
inductive Command where
  | select (columns : List ColumnRef) (table : String) (joins : List Join)
      (predicates : List Predicate) (limit offset : Option Nat)
  | insert (table : String) (columns : List String) (tuples : List (List Nat))
  | update (table : String) (assignments : List (String × Nat)) (predicates : List Predicate)
  | delete (table : String) (predicates : List Predicate)
  deriving DecidableEq

/-- The text of a command. A change returns the column `id` of the rows that it changed. -/
def Command.text : Command → String
  | select columns table joins predicates limit offset =>
    "SELECT " ++ projectionText columns ++ " FROM " ++ table ++
      String.join (joins.map joinText) ++ whereText predicates ++
      boundText "LIMIT" limit ++ boundText "OFFSET" offset
  | insert table columns tuples =>
    "INSERT INTO " ++ table ++ " (" ++ ", ".intercalate columns ++ ") VALUES " ++
      ",".intercalate (tuples.map tupleText) ++ " RETURNING id"
  | update table assignments predicates =>
    "UPDATE " ++ table ++ " SET " ++ ", ".intercalate (assignments.map assignmentText) ++
      whereText predicates ++ " RETURNING id"
  | delete table predicates =>
    "DELETE FROM " ++ table ++ whereText predicates ++ " RETURNING id"

theorem Command.text_select
    (columns : List ColumnRef) (table : String) (joins : List Join)
    (predicates : List Predicate) (limit offset : Option Nat) :
  (select columns table joins predicates limit offset).text
    = "SELECT " ++ projectionText columns ++ " FROM " ++ table ++
      String.join (joins.map joinText) ++ whereText predicates ++
      boundText "LIMIT" limit ++ boundText "OFFSET" offset
  := rfl

theorem Command.text_insert (table : String) (columns : List String) (tuples : List (List Nat)) :
  (insert table columns tuples).text
    = "INSERT INTO " ++ table ++ " (" ++ ", ".intercalate columns ++ ") VALUES " ++
      ",".intercalate (tuples.map tupleText) ++ " RETURNING id"
  := rfl

theorem Command.text_update
    (table : String) (assignments : List (String × Nat)) (predicates : List Predicate) :
  (update table assignments predicates).text
    = "UPDATE " ++ table ++ " SET " ++ ", ".intercalate (assignments.map assignmentText) ++
      whereText predicates ++ " RETURNING id"
  := rfl

theorem Command.text_delete (table : String) (predicates : List Predicate) :
  (delete table predicates).text
    = "DELETE FROM " ++ table ++ whereText predicates ++ " RETURNING id"
  := rfl

end TableGateway.Sql
