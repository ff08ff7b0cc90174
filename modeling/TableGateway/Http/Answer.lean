import TableGateway.Http.RequestId
import TableGateway.Http.Route
import TableGateway.Service.TableRequest
import TableGateway.Text.Percent

/-!
# Answers

The service answers requests with a catalog. A path without a route is not found, and a method that a
route does not have is not allowed. Every response repeats the id of the request and lets scripts of any
origin read it; a request for options is answered with that permission alone.
-/

namespace TableGateway.Http

/-! ### Responses -/

/-- The headers of every response. -/
def commonHeaders (requestId : String) : List (String × String) := [
  ("access-control-allow-origin", "*"),
  ("vary", "origin, access-control-request-method, access-control-request-headers"),
  (requestIdHeader, requestId)]

/-- The headers of every response but that to a request for options. -/
def answerHeaders (requestId : String) : List (String × String) :=
  commonHeaders requestId ++ [("access-control-expose-headers", "*")]

/-- A response with a body. -/
def answer (requestId : String) (status : Nat) (body : Body) : Response where
  status := status
  headers := answerHeaders requestId
  body := body
  hidden := false

/-- The response to a request for options. -/
def optionsResponse (requestId : String) (route : Option Route) : Response where
  status := 200
  headers := commonHeaders requestId ++ [("access-control-allow-methods", "*"),
    ("access-control-allow-headers", "*")] ++ route.toList.map Route.allowHeader
  body := .empty
  hidden := false

/-- The response to a request with a method that its route does not have. -/
def notAllowed (requestId : String) (route : Route) : Response where
  status := 405
  headers := answerHeaders requestId ++ [route.allowHeader]
  body := .empty
  hidden := false

/-- The response to a request about a table that has been executed. -/
def tableResponse (requestId : String) (request : TableRequest) :
    Except ServiceError (List Json) → Response
  | .ok values => answer requestId request.successStatus (.json (request.successBody values))
  | .error e => answer requestId e.status (.json (e.toJson requestId))

/-! ### Answers -/

/-- What a request with a method is about, for a table; an update has two methods. -/
def TableRequest.ofMethod? (method : Method) (clauses : Option String) (body : List UInt8) :
    Option TableRequest :=
  match method with
  | .get | .head => some (.select clauses)
  | .post => some (.insert body)
  | .patch | .put => some (.update clauses body)
  | .delete => some (.delete clauses)
  | .options => none

/-- The answer to a request about a table, whose name is percent-encoded. -/
def answerTable (catalog : Catalog) (requestId : String) (segment : List Char)
    (request : TableRequest) : Exchange Response :=
  match Text.Percent.decode? segment with
  | none =>
    .done (answer requestId 400 (.plain "Invalid URL: Invalid UTF-8 in \x60table\x60"))
  | some table =>
    (request.execute catalog (String.ofList table)).map (tableResponse requestId request)

/-- The answer to a request with a method that its route has. -/
def answerRoute (catalog : Catalog) (requestId : String) (method : Method)
    (clauses : Option String) (body : List UInt8) (route : Route) : Exchange Response :=
  match route with
  | .health => .done (answer requestId 200 (.json (.object [("status", .string "ok")])))
  | .tables =>
    let names := catalog.tableNames.map Json.string
    .done (answer requestId 200 (.json (.object [("data", .array names)])))
  | .table segment =>
    match TableRequest.ofMethod? method clauses body with
    | some request => answerTable catalog requestId segment request
    | none => .done (notAllowed requestId route)

/-- The answer to a request. `fresh` is the id of a request that has none of its own. -/
def respond (catalog : Catalog) (fresh : String) (request : Request) : Exchange Response :=
  let requestId := request.id fresh
  let (path, query) := request.pathAndQuery
  let route := Route.ofPath? path
  let method := Method.ofName? request.method
  if method = some .options then .done (optionsResponse requestId route)
  else
    match route with
    | none => .done (answer requestId 404 .empty)
    | some route =>
      match method.filter route.methods.contains with
      | none => .done (notAllowed requestId route)
      | some method =>
        (answerRoute catalog requestId method (query.map String.ofList) request.body route).map
          fun response => { response with hidden := method = .head }

end TableGateway.Http
