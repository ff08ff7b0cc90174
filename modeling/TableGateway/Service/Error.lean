import TableGateway.Cause
import TableGateway.Database.Binding

/-!
# Service errors

A request about a table fails if its body cannot be read, if no statement can be made of it, if an argument
does not suit its column, or if the database fails. The client learns the cause, except that of the
database.
-/

namespace TableGateway

/-- The cause for which a request about a table fails. -/
inductive ServiceError where
  | unreadableBody
  | refused (error : RequestError)
  | unbindable (error : BindingError)
  | database

namespace ServiceError

/-- The status of the response. -/
def status : ServiceError → Nat
  | unreadableBody | unbindable _ => 400
  | refused e => e.status
  | database => 500

/-- The code of an error for programs. -/
def code : ServiceError → String
  | unreadableBody | unbindable _ => "BAD_REQUEST"
  | refused e => e.code
  | database => "DATABASE_ERROR"

/-- The text that describes an error. That of the database is kept from the client. -/
def message : ServiceError → String
  | unreadableBody => "invalid JSON body: " ++ Cause.json.description
  | refused e => e.message
  | unbindable e => e.message
  | database => "Database operation failed"

/-- The body of the response, for the request with a given id. -/
def toJson (e : ServiceError) (requestId : String) : Json :=
  .object [("error", .object [("code", .string e.code), ("message", .string e.message),
    ("requestId", .string requestId)])]

end ServiceError

end TableGateway
