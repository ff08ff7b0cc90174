import TableGateway.Catalog.Coercion
import TableGateway.Record
import TableGateway.Sql.Command
import TableGateway.Sql.Scope

/-!
# Statements

A statement is a command with its arguments, numbered from one. Each argument carries the type of the
column that it is compared with or assigned to. A statement is made of a query, or of a table and
records, after every name has been found in the catalog; rows are only changed under conditions.

The arguments are collected one by one while the command is made, and each is named by the number of
arguments that have been collected with it. So the numbers follow the order in which the parts of the
command are made.
-/

namespace TableGateway

/-- A value for a statement, with the type of its column. -/
structure Argument where
  value : Json
  type : ColumnType

/-- A command with its arguments. -/
structure Statement where
  command : Sql.Command
  arguments : List Argument

namespace Statement

/-- The text of a statement. -/
def sql (statement : Statement) : String :=
  statement.command.text

/-- The values of the arguments, in the order of their numbers. -/
def values (statement : Statement) : List Json :=
  statement.arguments.map Argument.value

/-- The types of the arguments, in the order of their numbers. -/
def types (statement : Statement) : List ColumnType :=
  statement.arguments.map Argument.type

/-! ### Arguments -/

/-- A part of a statement is made, and its arguments come to those that have been collected. -/
abbrev Collecting : Type → Type :=
  StateT (List Argument) (Except RequestError)

/-- One more argument is collected. Its number is the number of the arguments that are there now. -/
def push (value : Json) (type : ColumnType) : Collecting Nat := do
  modify (· ++ [⟨value, type⟩])
  return (← get).length

/-! ### Conditions -/

/-- The predicate of a condition on a column. Its values are collected in order. -/
def collectCondition (condition : Condition) (column : Column) : Collecting Sql.Predicate := do
  let numbers ← condition.values.mapM fun value => push (column.type.coerce value) column.type
  return ⟨condition.column, condition.operator, numbers⟩

/-- The predicates of conditions, in order. -/
def collectConditions (catalog : Catalog) (query : Query) :
    List Condition → Collecting (List Sql.Predicate)
  | [] => return []
  | condition :: rest => do
    let column ← query.resolve catalog condition.column
    let predicate ← collectCondition condition column
    return predicate :: (← collectConditions catalog query rest)

/-- The predicates of a change, of which there must be some. -/
def collectFilter (catalog : Catalog) (query : Query) : Collecting (List Sql.Predicate) := do
  let predicates ← collectConditions catalog query query.conditions
  if predicates.isEmpty then throw .noConditions
  return predicates

/-! ### Records -/

/-- The columns that a record gives values to, in increasing order of their names. -/
def recordColumns (table : Table) (record : Record) (change : Change) :
    Except RequestError (List Column) :=
  if record.fields.isEmpty then .error (.emptyPayload change)
  else record.names.mapM table.requireColumn

/-- The argument for the value that a row gives to a column. -/
def collectValue (row : Nat) (record : Record) (column : Column) : Collecting Nat :=
  match record.get? column.name with
  | some value => push value column.type
  | none => throw (.columnMismatch row)

/-- The arguments of one row, which gives a value to each of the columns and to no others. -/
def collectRow (columns : List Column) (row : Nat) (record : Record) :
    Collecting (List Nat) := do
  if record.size ≠ columns.length then throw (.columnMismatch row)
  columns.mapM (collectValue row record)

/-- The arguments of rows one after the other, the first of them at a given place. -/
def collectRows (columns : List Column) (row : Nat) : List Record → Collecting (List (List Nat))
  | [] => return []
  | record :: rest => do
    let numbers ← collectRow columns row record
    return numbers :: (← collectRows columns (row + 1) rest)

/-- The assignments of the values of a record to those columns that it gives values to. -/
def collectAssignments (record : Record) : List Column → Collecting (List (String × Nat))
  | [] => return []
  | column :: rest =>
    match record.get? column.name with
    | some value => do
      let number ← push value column.type
      return (column.name, number) :: (← collectAssignments record rest)
    | none => collectAssignments record rest

/-! ### Statements -/

/-- The statement of a command whose arguments are collected from the first one on. -/
def ofCollecting (command : Collecting Sql.Command) : Except RequestError Statement := do
  let (command, arguments) ← command.run []
  return ⟨command, arguments⟩

/-- The statement that returns the rows of a query. -/
def select (catalog : Catalog) (query : Query) : Except RequestError Statement := do
  let _ ← catalog.requireTable query.table
  query.checkJoins catalog [query.table] query.joins
  query.checkColumns catalog query.columns
  ofCollecting do
    let predicates ← collectConditions catalog query query.conditions
    return .select query.columns query.table query.joins predicates query.limit query.offset

/-- The statement that inserts records into a table. All records give values to the columns that the
first one does. -/
def insert (catalog : Catalog) (table : String) (records : List Record) :
    Except RequestError Statement := do
  let definition ← catalog.requireTable table
  let some first := records.head? | throw (.emptyPayload .insert)
  let columns ← recordColumns definition first .insert
  ofCollecting do
    let tuples ← collectRows columns 0 records
    return .insert table (columns.map Column.name) tuples

/-- Rows are changed under conditions, and in one table. -/
def checkChange (query : Query) (change : Change) : Except RequestError Unit :=
  if query.conditions.isEmpty then .error .noConditions
  else if !query.joins.isEmpty then .error (.joinUnsupported change)
  else .ok ()

/-- The statement that assigns the values of a record to the rows of a query. The assignments are
collected before the conditions. -/
def update (catalog : Catalog) (query : Query) (record : Record) :
    Except RequestError Statement := do
  checkChange query .update
  let table ← catalog.requireTable query.table
  let columns ← recordColumns table record .update
  ofCollecting do
    let assignments ← collectAssignments record columns
    let predicates ← collectFilter catalog query
    return .update query.table assignments predicates

/-- The statement that deletes the rows of a query. -/
def delete (catalog : Catalog) (query : Query) : Except RequestError Statement := do
  checkChange query .delete
  let _ ← catalog.requireTable query.table
  ofCollecting do
    let predicates ← collectFilter catalog query
    return .delete query.table predicates

end Statement

end TableGateway
