import TableGateway.Number.Integer
import TableGateway.Query.Basic
import TableGateway.Text.Cut
import TableGateway.Text.Identifier
import TableGateway.Text.Percent

/-!
# Reading queries

A request names a table in its path, `/table` or `/table/`, and says more in clauses `keyword=value`
that are joined by `&`:

* `where` or `filter`: conditions joined by `;`, each a column, an operator token and values joined
  by `,`;
* `select` or `fields`: columns joined by `,`, each with an optional `:label`;
* `join`, `inner_join`, `left_join` or `right_join`: relations `table:left==right` joined by `;`;
* `limit` or `offset`: a number.

A text is cut at its separators before its parts are percent-decoded, so that an encoded separator
separates nothing. A clause replaces an earlier one of its kind, but joins add up.
-/

namespace TableGateway.Query

/-- A clause of a query. -/
inductive Clause where
  | filter (conditions : List Condition)
  | select (columns : List ColumnRef)
  | join (joins : List Join)
  | limit (rows : Nat)
  | offset (rows : Nat)

/-- The query with one more clause. -/
def apply (query : Query) : Clause → Query
  | .filter conditions => { query with conditions }
  | .select columns => { query with columns }
  | .join joins => joins.foldl addJoin query
  | .limit rows => { query with limit := some rows }
  | .offset rows => { query with offset := some rows }

/-- The text that a percent-encoded part stands for. -/
def decode (part : List Char) : Except RequestError (List Char) :=
  match Text.Percent.decode? part with
  | some text => .ok text
  | none => .error (.invalidEncoding (String.ofList part))

/-- A name within a column reference, percent-decoded. -/
def parseName (spec part : List Char) : Except RequestError String := do
  let name ← decode part
  if Text.isIdentifier name then return String.ofList name
  else throw (.invalidColumn (String.ofList spec))

/-- A column reference `name` or `qualifier.name`. -/
def parseColumn (spec : List Char) : Except RequestError ColumnRef :=
  match spec.splitOn '.' with
  | [name] => do
    let name ← parseName spec name
    return ⟨none, name, none⟩
  | [qualifier, name] => do
    let qualifier ← decode qualifier
    let name ← decode name
    if Text.isIdentifier qualifier && Text.isIdentifier name then
      return ⟨some (String.ofList qualifier), String.ofList name, none⟩
    else throw (.invalidColumn (String.ofList spec))
  | _ => throw (.invalidColumn (String.ofList spec))

/-- A column to return, with the name to return it under if one follows. -/
def parseSelected (spec : List Char) : Except RequestError ColumnRef :=
  match Text.cutAt? ':' spec with
  | none => parseColumn spec
  | some (column, label) => do
    let column ← parseColumn column
    let label ← parseName spec label
    return { column with label := some label }

/-- The values of a condition, joined by commas. -/
def parseValues (text : List Char) : Except RequestError (List String) :=
  if text.isEmpty then .ok []
  else (text.splitOn ',').mapM fun value => String.ofList <$> decode value

/-- A condition. -/
def parseCondition (operators : OperatorTable) (text : List Char) :
    Except RequestError Condition := do
  if text.isEmpty then throw .emptyCondition
  let some found := operators.find? text | throw (.invalidOperator (String.ofList text))
  if found.operator.isNullTest && !found.after.isEmpty then
    throw (.unexpectedValues (String.ofList text))
  if !found.operator.isNullTest && found.after.isEmpty then
    throw (.noValues (String.ofList text))
  let column ← parseColumn found.before
  let values ← parseValues found.after
  Condition.make column found.operator values

/-- A column of a join relation, which must be qualified. -/
def parseQualified (relation spec : List Char) : Except RequestError ColumnRef :=
  match parseColumn spec with
  | .ok column =>
    if column.qualifier.isSome then .ok column
    else .error (.invalidJoin (String.ofList relation))
  | .error _ => .error (.invalidJoin (String.ofList relation))

/-- A join relation `table:left==right`. -/
def parseJoin (kind : JoinKind) (relation : List Char) : Except RequestError Join := do
  let invalid := RequestError.invalidJoin (String.ofList relation)
  let some (table, on) := Text.cutAt? ':' relation | throw invalid
  let some (left, right) := Text.cutAtWord? ['=', '='] on | throw invalid
  let table ← decode table
  if !Text.isIdentifier table || (Text.cutAtWord? ['=', '='] right).isSome then throw invalid
  let left ← parseQualified relation left
  let right ← parseQualified relation right
  return ⟨kind, String.ofList table, left, right⟩

/-- A number of rows, below `2 ^ 64`. -/
def parseBound (bound : RowBound) (text : List Char) : Except RequestError Nat :=
  match Number.unsignedBelow? (2 ^ 64) text with
  | some rows => .ok rows
  | none => .error (.invalidNumber bound (String.ofList text))

/-- The value of the clause with a given keyword. -/
def parseClauseValue (operators : OperatorTable) (keyword : String) (value : List Char) :
    Except RequestError Clause :=
  match keyword with
  | "where" | "filter" => Clause.filter <$> (value.splitOn ';').mapM (parseCondition operators)
  | "select" | "fields" => Clause.select <$> (value.splitOn ',').mapM parseSelected
  | "limit" => Clause.limit <$> parseBound .limit value
  | "offset" => Clause.offset <$> parseBound .offset value
  | _ =>
    match JoinKind.ofKeyword? keyword with
    | some kind => Clause.join <$> (value.splitOn ';').mapM (parseJoin kind)
    | none => .error (.invalidKeyword keyword)

/-- A clause, cut at its first equality sign. -/
def parseClause (operators : OperatorTable) (text : List Char) : Except RequestError Clause :=
  match Text.cutAt? '=' text with
  | some (keyword, value) => parseClauseValue operators (String.ofList keyword) value
  | none => .error (.invalidClause (String.ofList text))

/-- The clauses of a query; empty ones between separators are skipped. -/
def clauseTexts (text : List Char) : List (List Char) :=
  (text.splitOn '&').filter fun clause => !clause.isEmpty

/-- The query about a table with the given clauses. -/
def parse (operators : OperatorTable) (table : String) (text : String) :
    Except RequestError Query :=
  (clauseTexts text.toList).foldlM
    (fun query clause => query.apply <$> parseClause operators clause) (ofTable table)

/-- The table that a path names. -/
def tableOfPath? : List Char → Option (List Char)
  | '/' :: rest =>
    let name := if rest.getLast? = some '/' then rest.dropLast else rest
    if Text.isIdentifier name then some name else none
  | _ => none

/-- The query of a path with its clauses after a question mark. -/
def parsePath (operators : OperatorTable) (path : String) : Except RequestError Query :=
  let (resource, clauses) := (Text.cutAt? '?' path.toList).getD (path.toList, [])
  match tableOfPath? resource with
  | some table => parse operators (String.ofList table) (String.ofList clauses)
  | none => .error (.invalidPath path)

end TableGateway.Query
