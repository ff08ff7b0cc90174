import TableGateway.Http.Message

/-!
# Routes

The service answers at `/health`, at `/tables`, and at one path for every table, whose name is the only
segment of the path. The two fixed paths come first.
-/

namespace TableGateway.Http

/-- A path at which the service answers. The segment of a table is as it stands in the path. -/
inductive Route where
  | health
  | tables
  | table (segment : List Char)
  deriving DecidableEq

namespace Route

/-- The route of a path. -/
def ofPath? : List Char → Option Route
  | '/' :: segment =>
    if segment = "health".toList then some health
    else if segment = "tables".toList then some tables
    else if segment.isEmpty || segment.contains '/' then none
    else some (table segment)
  | _ => none

/-- The methods of a route. -/
def methods : Route → List Method
  | health | tables => [.get, .head]
  | table _ => [.get, .head, .post, .patch, .put, .delete]

/-- The header that lists the methods of a route. -/
def allowHeader (route : Route) : String × String :=
  ("allow", ",".intercalate (route.methods.map Method.name))

end Route

end TableGateway.Http
