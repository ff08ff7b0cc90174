import TableGateway.Database.Cell
import TableGateway.Database.Parameter
import TableGateway.NameOrder

/-!
# Calls and results

A call hands a statement with its parameters to the database, which replies with rows or fails. A row is
shown as a JSON object; of columns with one name, as a join may give, the last is shown.
-/

namespace TableGateway

/-- A statement that is handed to the database, with a parameter for each placeholder. -/
structure Call where
  sql : String
  parameters : List Parameter

/-- Rows with named columns. A cell that is null is none. -/
structure ResultSet where
  columns : List String
  rows : List (List (Option Cell))

/-- The reply to a call: none if the database fails. -/
abbrev Reply := Option ResultSet

namespace ResultSet

/-- The JSON value of a cell in a row. -/
def cellJson? : Option Cell → Option Json
  | none => some .null
  | some cell => cell.toJson?

/-- The JSON object of a row. -/
def rowJson? (columns : List String) (row : List (Option Cell)) : Option Json := do
  let members ← (columns.zip row).mapM fun (name, cell) => (cellJson? cell).map (name, ·)
  return .object (NameOrder.collect Prod.fst members)

/-- The JSON objects of all rows. -/
def rowsJson? (results : ResultSet) : Option (List Json) :=
  results.rows.mapM (rowJson? results.columns)

/-- The member `id` of a row, or a null. -/
def idOf : Json → Json
  | .object members => (members.lookup "id").getD .null
  | _ => .null

/-- The members `id` of all rows. -/
def idsJson? (results : ResultSet) : Option (List Json) :=
  results.rowsJson?.map (·.map idOf)

end ResultSet

end TableGateway
