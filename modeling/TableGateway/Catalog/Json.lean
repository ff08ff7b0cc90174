import TableGateway.Catalog.Basic
import TableGateway.Json.Reader

/-!
# Catalogs as JSON

A column is written as an object of its name and type, and a catalog as an object of its tables. A
column is read from such an object, which may lack the type and have other members, or from an array
of the name and the type; without a type it is a column of strings. What its other members stand for does
not matter.
-/

namespace TableGateway

/-- The object of a column. -/
def Column.toJson (column : Column) : Json :=
  .object [("name", .string column.name), ("type", .string column.type.name)]

/-- The column type that a value names: a string, or an object whose only member has that name and is
null. -/
def ColumnType.ofWritten? : Json.Written → Option ColumnType
  | .string name | .object [(name, .null)] => (Json.stringOfLetters? name).bind ofName?
  | _ => none

/-- The column with a given name and type, both as they are written. -/
def Column.ofWrittenParts? (name : Json.Written) (type : Option Json.Written) : Option Column := do
  let .string name := name | none
  let name ← Json.stringOfLetters? name
  match type with
  | none => return ⟨name, .string⟩
  | some type => return ⟨name, ← ColumnType.ofWritten? type⟩

/-- The column that a value describes. Neither the name nor the type may occur twice. -/
def Column.ofWritten? : Json.Written → Option Column
  | .array [name] => ofWrittenParts? name none
  | .array [name, type] => ofWrittenParts? name (some type)
  | .object members => do
    let members ← members.mapM fun (name, value) => (Json.stringOfLetters? name).map (·, value)
    let values (key : String) := (members.filter (·.1 = key)).map Prod.snd
    match values "name", values "type" with
    | [name], [] => ofWrittenParts? name none
    | [name], [type] => ofWrittenParts? name (some type)
    | _, _ => none
  | _ => none

/-- The column that a JSON text describes. -/
def Column.ofText? (text : List Char) : Option Column :=
  (Json.Written.ofText? text).bind Column.ofWritten?

/-- The object of a table's columns. -/
def Table.toJson (table : Table) : Json :=
  .object [("columns", .array (table.columns.map Column.toJson))]

/-- The object of a catalog's tables. -/
def Catalog.toJson (catalog : Catalog) : Json :=
  .object [("tables", .object (catalog.tables.map fun table => (table.name, table.toJson)))]

end TableGateway
