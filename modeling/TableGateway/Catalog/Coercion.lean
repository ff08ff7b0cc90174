import TableGateway.Binary64.Text
import TableGateway.Catalog.ColumnType
import TableGateway.Json.Basic
import TableGateway.Number.Integer

/-!
# Coercion of filter values

The value of a filter is text. For a column of integers, floating-point numbers or truth values it is
turned into such a JSON value if the text writes one; in all other cases it stays text, so that no
digit of a decimal is lost and a text that fits no column type is refused only when it is bound.
-/

namespace TableGateway

/-- The truth value that a word writes, in any case. -/
def boolOfWord? (text : List Char) : Option Bool :=
  match String.ofList (Text.lower text) with
  | "true" | "t" | "1" => some true
  | "false" | "f" | "0" => some false
  | _ => none

/-- The JSON value of a filter text for a column of the given type. -/
def ColumnType.coerce (type : ColumnType) (text : String) : Json :=
  let coerced : Option Json :=
    match type with
    | .int | .bigint => (Number.int64? text.toList).map fun n => .number (.integer n)
    | .float => (Binary64.ofText? text.toList).bind Json.ofBinary64?
    | .boolean => (boolOfWord? text.toList).map .bool
    | _ => none
  coerced.getD (.string text)

end TableGateway
