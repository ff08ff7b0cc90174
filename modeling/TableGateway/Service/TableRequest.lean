import TableGateway.Database.Exchange
import TableGateway.Json.Reader
import TableGateway.Service.Error
import TableGateway.Service.Plan

/-!
# Requests about tables

To execute a request a statement is planned, its arguments are bound, and it is handed to the database, in
this order; the first of these that fails ends it. The answer to a reading request is the rows of the reply,
and the answer to a change is the ids of the rows that it changed.
-/

namespace TableGateway

/-- The call for a statement. -/
def Statement.toCall (statement : Statement) : Except BindingError Call := do
  return ⟨statement.sql, ← Argument.bindAll statement.arguments⟩

/-- A planned statement is handed to the database, and its reply is read with `read?`. -/
def fetch
    (plan : Except ServiceError Statement)
    (read? : ResultSet → Option (List Json)) :
    Exchange (Except ServiceError (List Json)) :=
  match plan with
  | .error e => .done (.error e)
  | .ok statement =>
    match statement.toCall with
    | .error e => .done (.error (.unbindable e))
    | .ok call =>
      .call call fun reply =>
        match reply.bind read? with
        | some values => .ok values
        | none => .error .database

/-- The JSON value of a body. -/
def readBody (body : List UInt8) : Except ServiceError Json :=
  match (Text.textOfUtf8? body).bind Json.ofText? with
  | some value => .ok value
  | none => .error .unreadableBody

/-- A request about a table: what is done, with the text after the question mark, and the body of a change
that needs one. -/
inductive TableRequest where
  | select (clauses : Option String)
  | insert (body : List UInt8)
  | update (clauses : Option String) (body : List UInt8)
  | delete (clauses : Option String)

namespace TableRequest

/-- The statement of a request. A body is read before the rest of the request. -/
def plan (catalog : Catalog) (table : String) : TableRequest → Except ServiceError Statement
  | select clauses => (Plan.select catalog table clauses).mapError .refused
  | insert body => do
    let body ← readBody body
    (Plan.insert catalog table body).mapError .refused
  | update clauses body => do
    let body ← readBody body
    (Plan.update catalog table clauses body).mapError .refused
  | delete clauses => (Plan.delete catalog table clauses).mapError .refused

/-- The status of the response to a request that succeeds. -/
def successStatus : TableRequest → Nat
  | insert _ => 201
  | _ => 200

/-- The values that a reply to the request is read as. -/
def read? : TableRequest → ResultSet → Option (List Json)
  | select _ => ResultSet.rowsJson?
  | _ => ResultSet.idsJson?

/-- The body of the response to a request that succeeds with values. -/
def successBody (values : List Json) : TableRequest → Json
  | select _ => .object [("data", .array values)]
  | _ => .object [("data", .object [("ids", .array values)])]

/-- The values that a request about a table is answered with. -/
def execute (catalog : Catalog) (table : String) (request : TableRequest) :
    Exchange (Except ServiceError (List Json)) :=
  fetch (request.plan catalog table) request.read?

end TableRequest

end TableGateway
