import TableGateway.Query.Parser
import TableGateway.Sql.Statement

/-!
# Plans

A plan is the statement that a request about a table asks for. The request gives the name of the table, the
clauses of the query, and the body of a change.
-/

namespace TableGateway

namespace Plan

/-- The query about a table of a request with the given text after its question mark. -/
def query (table : String) (clauses : Option String) : Except RequestError Query :=
  Query.parsePath .standard ("/" ++ table ++ "?" ++ clauses.getD "")

/-- The statement of a reading request. -/
def select (catalog : Catalog) (table : String) (clauses : Option String) :
    Except RequestError Statement := do
  Statement.select catalog (← query table clauses)

/-- The statement of an insertion, which has no clauses. -/
def insert (catalog : Catalog) (table : String) (body : Json) :
    Except RequestError Statement := do
  let query ← query table none
  let records ← Record.listOfBody body
  Statement.insert catalog query.table records

/-- The statement of a change of values. -/
def update (catalog : Catalog) (table : String) (clauses : Option String) (body : Json) :
    Except RequestError Statement := do
  let query ← query table clauses
  let record ← Record.ofBody body
  Statement.update catalog query record

/-- The statement of a deletion. -/
def delete (catalog : Catalog) (table : String) (clauses : Option String) :
    Except RequestError Statement := do
  Statement.delete catalog (← query table clauses)

end Plan

end TableGateway
