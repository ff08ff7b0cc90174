import TableGateway.Catalog.File
import TableGateway.Catalog.Json
import TableGateway.CommandLine.Explain
import TableGateway.Service.Startup

/-!
# Running commands

A command reads a catalog file and prints what it has been asked for, or fails with a chain of causes.
-/

namespace TableGateway

/-- The lines that show a table. -/
def Table.lines (table : Table) : String :=
  "- " ++ table.name ++ " (" ++ Number.natText table.columns.length ++ " columns)\n" ++
    String.join (table.columns.map fun column =>
      "    " ++ column.name ++ ": " ++ column.type.name ++ "\n")

/-- The lines that show a catalog. -/
def Catalog.lines (catalog : Catalog) : String :=
  Number.natText catalog.size ++ " tables\n" ++ String.join (catalog.tables.map Table.lines)

namespace CommandLine

/-- The cause for which a command fails. -/
inductive CommandError where
  | noCatalogFile (path : String)
  | invalidCatalogFile (path : String) (error : SchemaError)
  | unexplained (error : ExplainError)
  deriving DecidableEq

/-- The chain of causes of an error. -/
def CommandError.causes : CommandError → List Cause
  | noCatalogFile path => [.text ("failed to read catalog file " ++ path), .io]
  | invalidCatalogFile path e => .text ("invalid catalog file " ++ path) :: e.causes
  | unexplained e => e.causes

/-- The catalog of a file. -/
def readCatalog (files : Files) (path : String) : Except CommandError Catalog :=
  match files path with
  | none => .error (.noCatalogFile path)
  | some text => (Catalog.ofFileText text).mapError (.invalidCatalogFile path)

/-- The indented text of a JSON value and a line feed. -/
def jsonLines (value : Json) : String :=
  value.indented ++ "\n"

/-- What a command prints. -/
def Invocation.output (files : Files) (invocation : Invocation) : Except CommandError String :=
  match invocation.command with
  | .explain catalogFile method body path => do
    let catalog ← readCatalog files catalogFile
    let statement ← (explain catalog method body path).mapError .unexplained
    match invocation.format with
    | .text => return statement.lines
    | .json => return jsonLines statement.toJson
  | .catalog catalogFile => do
    let catalog ← readCatalog files catalogFile
    match invocation.format with
    | .text => return catalog.lines
    | .json => return jsonLines catalog.toJson

end CommandLine

end TableGateway
