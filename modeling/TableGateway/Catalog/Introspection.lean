import TableGateway.Catalog.Basic
import TableGateway.Database.ResultSet
import TableGateway.Text.Percent

/-!
# Introspection

Without a catalog file the catalog is read from the database's own description of a schema: one row for
each column, with the names of the table and of the column and the type, in the order of tables and of
columns. Rows of one table that follow each other are grouped.
-/

namespace TableGateway

/-- A column as the database describes it. -/
structure ColumnDescription where
  table : String
  column : String
  type : String
  deriving DecidableEq

namespace ColumnDescription

/-- The column that is described. -/
def toColumn (description : ColumnDescription) : Column :=
  ⟨description.column, ColumnType.ofDatabase description.type⟩

/-- Tables that are finished, and the table whose rows are being read with its columns so far. -/
structure Grouping where
  finished : List Table
  pending : Option (String × List Column)

namespace Grouping

/-- The tables once the pending one is finished. -/
def flush (grouping : Grouping) : List Table :=
  match grouping.pending with
  | some (name, columns) => grouping.finished ++ [Table.ofColumns name columns]
  | none => grouping.finished

/-- One more row is about the pending table, or it finishes that table and begins another one. -/
def add (grouping : Grouping) (description : ColumnDescription) : Grouping :=
  match grouping.pending with
  | some (name, columns) =>
    if name = description.table then
      { grouping with pending := some (name, columns ++ [description.toColumn]) }
    else ⟨grouping.flush, some (description.table, [description.toColumn])⟩
  | none => ⟨grouping.flush, some (description.table, [description.toColumn])⟩

end Grouping

/-- The tables that are described, one for each group of rows that follow each other. -/
def tables (descriptions : List ColumnDescription) : List Table :=
  (descriptions.foldl Grouping.add ⟨[], none⟩).flush

/-- The statement that asks for the columns of a schema. -/
def statement : String :=
  "
SELECT table_name::text, column_name::text, data_type::text
FROM information_schema.columns
WHERE table_schema = $1
ORDER BY table_name, ordinal_position
"

/-- The call that asks for the columns of a schema. -/
def call (schema : String) : Call :=
  ⟨statement, [.value (.text schema)]⟩

/-- The text of a cell. -/
def cellText? : Option Cell → Option String
  | some (.text octets) => (Text.textOfUtf8? octets).map String.ofList
  | _ => none

/-- The column that a row describes with its first three cells. -/
def ofRow? : List (Option Cell) → Option ColumnDescription
  | table :: column :: type :: _ => do
    return ⟨← cellText? table, ← cellText? column, ← cellText? type⟩
  | _ => none

end ColumnDescription

/-- The catalog of the tables that a reply describes. -/
def Catalog.ofReply? (reply : Reply) : Option Catalog := do
  let results ← reply
  let descriptions ← results.rows.mapM ColumnDescription.ofRow?
  return Catalog.ofTables (ColumnDescription.tables descriptions)

end TableGateway
