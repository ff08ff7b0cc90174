import TableGateway.Cause
import TableGateway.CommandLine.Arguments
import TableGateway.Json.Printer
import TableGateway.Json.Reader
import TableGateway.Query.Parser
import TableGateway.Sql.Statement

/-!
# Explanations

A request is explained by the statement that it asks for. The request is given by its path with the query,
a method, and the text of a body, which the methods that change values need.
-/

namespace TableGateway.CommandLine

/-- The cause for which a request cannot be explained. -/
inductive ExplainError where
  | refused (error : RequestError)
  | noBody
  | unreadableBody
  deriving DecidableEq

/-- The chain of causes of an error. -/
def ExplainError.causes : ExplainError → List Cause
  | refused e => [.text e.message]
  | noBody => [.text "--body is required for POST/PATCH/PUT"]
  | unreadableBody => [.text "--body is not valid JSON", .json]

/-- The JSON value of a body. -/
def readBody (body : Option String) : Except ExplainError Json :=
  match body with
  | none => .error .noBody
  | some body =>
    match Json.ofText? body.toList with
    | some value => .ok value
    | none => .error .unreadableBody

/-- The statement that a query asks for with a method and a body. -/
def explainQuery (catalog : Catalog) (method : Method) (body : Option String) (query : Query) :
    Except ExplainError Statement :=
  match method with
  | .get => (Statement.select catalog query).mapError .refused
  | .post => do
    let body ← readBody body
    let records ← (Record.listOfBody body).mapError .refused
    (Statement.insert catalog query.table records).mapError .refused
  | .patch | .put => do
    let body ← readBody body
    let record ← (Record.ofBody body).mapError .refused
    (Statement.update catalog query record).mapError .refused
  | .delete => (Statement.delete catalog query).mapError .refused

/-- The statement that a request asks for. -/
def explain (catalog : Catalog) (method : Method) (body : Option String) (path : String) :
    Except ExplainError Statement := do
  let query ← (Query.parsePath .standard path).mapError .refused
  explainQuery catalog method body query

end TableGateway.CommandLine

namespace TableGateway.Statement

/-- The lines that show a statement. -/
def lines (statement : Statement) : String :=
  let values := Json.array (statement.arguments.map Argument.value)
  let types := statement.arguments.map fun argument => argument.type.name
  "SQL:   " ++ statement.sql ++ "\nArgs:  " ++ values.compact ++
    "\nTypes: [" ++ ", ".intercalate types ++ "]\n"

/-- The object of a statement. -/
def toJson (statement : Statement) : Json :=
  .object [
    ("sql", .string statement.sql),
    ("args", .array (statement.arguments.map Argument.value)),
    ("types", .array (statement.arguments.map fun argument => .string argument.type.name))]

end TableGateway.Statement
