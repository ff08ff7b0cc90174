import TableGateway.Json.Printer
import TableGateway.Text.Ascii
import TableGateway.Text.Cut

/-!
# Messages

A request has a method, a target and headers, and a body of octets. A response has a status and headers,
and a body that is JSON, plain text or nothing.

Requests are those that the server has taken. It turns bodies of more than two mebibytes away on its own
with the status 413, before anything else sees them.
-/

namespace TableGateway.Http

/-- The methods that the service knows. -/
inductive Method where
  | get
  | head
  | post
  | patch
  | put
  | delete
  | options
  deriving DecidableEq

/-- The name of a method. -/
def Method.name : Method → String
  | .get => "GET"
  | .head => "HEAD"
  | .post => "POST"
  | .patch => "PATCH"
  | .put => "PUT"
  | .delete => "DELETE"
  | .options => "OPTIONS"

/-- The method with a given name. -/
def Method.ofName? (name : String) : Option Method :=
  [get, head, post, patch, put, delete, options].find? (·.name = name)

/-- Every method is found by its name. -/
theorem Method.ofName?_name (method : Method) :
  ofName? method.name = some method
  := by
  cases method <;> decide

/-- A request. The method may be one that the service does not know, and the body is short enough to have
been taken. -/
structure Request where
  method : String
  target : String
  headers : List (String × String)
  body : List UInt8

namespace Request

/-- The target without the scheme and the authority that may come before its path. -/
def localTarget (target : List Char) : List Char :=
  if target.head? = some '/' then target
  else
    match Text.cutAtWord? "://".toList target with
    | some (_, afterScheme) =>
      let rest := afterScheme.dropWhile fun c => c != '/' && c != '?'
      if rest.head? = some '/' then rest else '/' :: rest
    | none => target

/-- The path of the target and what follows its question mark, if it has one. A fragment is no part of
either. -/
def pathAndQuery (request : Request) : List Char × Option (List Char) :=
  let target := localTarget (request.target.toList.takeWhile (· != '#'))
  match Text.cutAt? '?' target with
  | some (path, query) => (path, some query)
  | none => (target, none)

/-- The first header with a given name, which is in lower case. -/
def header? (request : Request) (name : String) : Option String :=
  (request.headers.find? fun header => Text.lower header.1.toList == name.toList).map Prod.snd

end Request

/-- The body of a response. -/
inductive Body where
  | empty
  | json (value : Json)
  | plain (text : String)

/-- The type of a body's content, if there is a body. -/
def Body.contentType? : Body → Option String
  | empty => none
  | json _ => some "application/json"
  | plain _ => some "text/plain; charset=utf-8"

/-- The text of a body. -/
def Body.text : Body → String
  | .empty => ""
  | .json value => value.compact
  | .plain s => s

/-- A response. The headers lack the type and the length of the body; `hidden` says that the body is left
out, as it is in the answer to a request for the headers alone. -/
structure Response where
  status : Nat
  headers : List (String × String)
  body : Body
  hidden : Bool

namespace Response

/-- The headers with the type of the body. -/
def allHeaders (response : Response) : List (String × String) :=
  response.headers ++ response.body.contentType?.toList.map ("content-type", ·)

/-- The text that is sent as the body. -/
def sentBody (response : Response) : String :=
  if response.hidden then "" else response.body.text

end Response

end TableGateway.Http
