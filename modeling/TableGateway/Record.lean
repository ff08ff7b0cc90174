import TableGateway.Json.Basic
import TableGateway.NameOrder
import TableGateway.RequestError

/-!
# Records

A record gives values to the columns of a row to insert or to change. It is read from an object of a
request's body, which may hold several for an insertion.
-/

namespace TableGateway

/-- Values by the names of columns, in increasing order of the names. -/
structure Record where
  fields : List (String × Json)
  sorted : fields.Pairwise (·.1 < ·.1)

namespace Record

/-- The record of an object's members, with the last value of each name. -/
def ofMembers (members : List (String × Json)) : Record where
  fields := NameOrder.collect Prod.fst members
  sorted := NameOrder.pairwise_collect members

/-- The names that have a value. -/
def names (record : Record) : List String :=
  record.fields.map Prod.fst

/-- No two values of a record have one name. -/
theorem nodup_names (record : Record) :
  record.names.Nodup
  := NameOrder.nodup_of_pairwise record.sorted

/-- The number of names that have a value. -/
def size (record : Record) : Nat :=
  record.fields.length

/-- The value of a name. -/
def get? (record : Record) (name : String) : Option Json :=
  record.fields.lookup name

/-- The record of a change: the body is one object. -/
def ofBody : Json → Except RequestError Record
  | .object members => .ok (ofMembers members)
  | other => .error (.invalidPayload .row other.kind)

/-- The records of an insertion: the body is one object or an array of objects. -/
def listOfBody : Json → Except RequestError (List Record)
  | .array items => items.mapM fun
    | .object members => .ok (ofMembers members)
    | other => .error (.invalidPayload .rowItem other.kind)
  | .object members => .ok [ofMembers members]
  | other => .error (.invalidPayload .rows other.kind)

end Record

end TableGateway
