import TableGateway.Catalog.Schema
import TableGateway.Number.Power
import TableGateway.Yaml.Content
import TableGateway.Yaml.Reader

/-!
# Catalog files

A catalog file is a YAML document. Its root has the members `version`, which may be left out, and
`tables`, which maps names to tables; a table has the member `columns`, a sequence, and a column has a
`name` and may have a `type`. Members of other names are ignored. A table replaces an earlier one of its
name.
-/

namespace TableGateway

/-- The column that a node declares. -/
def ColumnDeclaration.ofNode (document : Yaml.Document) (node : Yaml.Node) :
    Yaml.Reading ColumnDeclaration := do
  let members ← document.members node
  let name ← document.text (← ← Yaml.Document.member? members "name")
  let type ←
    match ← Yaml.Document.member? members "type" with
    | some type => document.optionalText type
    | none => pure none
  return ⟨name, type⟩

/-- The table of a given name that a node declares. -/
def TableDeclaration.ofNode (document : Yaml.Document) (name : String) (node : Yaml.Node) :
    Yaml.Reading TableDeclaration := do
  let members ← document.members node
  let columns ←
    match ← Yaml.Document.member? members "columns" with
    | some columns => document.items columns
    | none => pure []
  return ⟨name, ← columns.mapM (ColumnDeclaration.ofNode document)⟩

/-- The schema of declared tables, the last of each name. -/
def Schema.ofTables (version : Nat) (tables : List TableDeclaration) : Schema where
  version := version
  tables := NameOrder.collect TableDeclaration.name tables
  sorted := NameOrder.pairwise_collect tables

/-- The schema that the root of a document declares. -/
def Schema.ofRoot (document : Yaml.Document) : Yaml.Reading Schema := do
  let members ← document.members document.root
  let version ←
    match ← Yaml.Document.member? members "version" with
    | some version => document.numberBelow (2 ^ 32) version
    | none => pure Schema.supportedVersion
  let tables ← document.members (← ← Yaml.Document.member? members "tables")
  let tables ← tables.mapM fun (name, table) => TableDeclaration.ofNode document name table
  return Schema.ofTables version tables

/-- The schema that a document declares. -/
def Schema.ofDocument? (document : Yaml.Document) : Option Schema :=
  document.read? (Schema.ofRoot document)

/-- The catalog that the text of a file declares. -/
def Catalog.ofFileText (text : String) : Except SchemaError Catalog :=
  match (Yaml.Document.ofText? text.toList).bind Schema.ofDocument? with
  | some schema => schema.check
  | none => .error .unreadable

end TableGateway
