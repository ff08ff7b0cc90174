import TableGateway.Catalog.Basic
import TableGateway.Number.Integer

/-!
# Catalog schemas

A schema declares the tables of a catalog. It is what a catalog file says before it has been checked: a
version, and tables whose columns may have one name, and types that may be unknown. A schema is checked
table by table, in increasing order of names, and column by column.
-/

namespace TableGateway

/-- A declared column; without a type it is a column of strings. -/
structure ColumnDeclaration where
  name : String
  type : Option String
  deriving DecidableEq

/-- A declared table. -/
structure TableDeclaration where
  name : String
  columns : List ColumnDeclaration
  deriving DecidableEq

/-- A schema: its version, and its tables in increasing order of their names. -/
structure Schema where
  version : Nat
  tables : List TableDeclaration
  sorted : tables.Pairwise (·.name < ·.name)

/-- The cause for which there is no catalog of a file's text. -/
inductive SchemaError where
  | unreadable
  | unsupportedVersion (version : Nat)
  | noColumns (table : String)
  | duplicateColumn (table column : String)
  | unknownType (column type : String)
  deriving DecidableEq

/-- The text that describes an error; a text that is no schema at all is not described further. -/
def SchemaError.message : SchemaError → String
  | unreadable => "YAML parse error"
  | unsupportedVersion version =>
    "schema parse error: unsupported catalog version: " ++ Number.natText version
  | noColumns table => "schema validation error: table '" ++ table ++ "' has no columns"
  | duplicateColumn table column =>
    "duplicate column '" ++ column ++ "' in table '" ++ table ++ "'"
  | unknownType column type =>
    "schema validation error: column '" ++ column ++ "' has unknown type '" ++ type ++ "'"

/-- The type of a declared column. -/
def ColumnDeclaration.checkType (column : ColumnDeclaration) : Except SchemaError ColumnType :=
  match column.type with
  | none => .ok .string
  | some type =>
    match ColumnType.ofDeclared? type with
    | some type => .ok type
    | none => .error (.unknownType column.name type)

namespace TableDeclaration

/-- The columns of declarations, none of which may have one of the names in `seen`. -/
def checkColumns (table : String) (seen : List String) :
    List ColumnDeclaration → Except SchemaError (List Column)
  | [] => .ok []
  | column :: rest => do
    if seen.contains column.name then throw (.duplicateColumn table column.name)
    let type ← column.checkType
    let columns ← checkColumns table (column.name :: seen) rest
    return ⟨column.name, type⟩ :: columns

/-- The table of a declaration, which must have a column. -/
def check (table : TableDeclaration) : Except SchemaError Table := do
  if table.columns.isEmpty then throw (.noColumns table.name)
  let columns ← checkColumns table.name [] table.columns
  return Table.ofColumns table.name columns

end TableDeclaration

namespace Schema

/-- The version that catalog files have. -/
def supportedVersion : Nat :=
  1

/-- The catalog of a schema. -/
def check (schema : Schema) : Except SchemaError Catalog := do
  if schema.version ≠ supportedVersion then throw (.unsupportedVersion schema.version)
  let tables ← schema.tables.mapM TableDeclaration.check
  return Catalog.ofTables tables

end Schema

end TableGateway
