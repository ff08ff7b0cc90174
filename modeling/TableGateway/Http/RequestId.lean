import TableGateway.Http.Message

/-!
# Request ids

Every request has an id, which is repeated in the response. The client may choose it; otherwise it is a
fresh one.
-/

namespace TableGateway.Http

/-- The header that holds the id of a request. -/
def requestIdHeader : String :=
  "x-request-id"

/-- The greatest length of an id that a client chooses. -/
def maxRequestIdLength : Nat :=
  128

/-- The characters that headers may have as text: visible ones of ASCII, spaces and tabs. -/
def isHeaderChar (c : Char) : Bool :=
  c == '\t' || (' ' ≤ c && c ≤ '~')

/-- Whether a text can be the id of a request. -/
def isRequestId (text : String) : Bool :=
  !text.isEmpty && text.toList.all isHeaderChar && text.length ≤ maxRequestIdLength

/-- The id of a request: what its first header of that name says, if it can be one, or a fresh one. -/
def Request.id (request : Request) (fresh : String) : String :=
  ((request.header? requestIdHeader).filter isRequestId).getD fresh

end TableGateway.Http
