import TableGateway.Catalog.Basic
import TableGateway.Query.Basic

/-!
# Names in scope

The names of a query are looked up in a catalog. A qualified column belongs to the table that it is
qualified by, which must be one of the query's; an unqualified column must belong to exactly one of
the query's tables. A join brings one new table into scope, and relates it to a table that is there
already.
-/

namespace TableGateway

/-- The table of a catalog with a given name. -/
def Catalog.requireTable (catalog : Catalog) (name : String) : Except RequestError Table :=
  match catalog.table? name with
  | some table => .ok table
  | none => .error (.tableNotFound name)

/-- The column of a table with a given name. -/
def Table.requireColumn (table : Table) (name : String) : Except RequestError Column :=
  match table.column? name with
  | some column => .ok column
  | none => .error (.columnNotFound table.name name)

namespace Query

/-- The columns with a given name in the tables of a query. -/
def candidates (query : Query) (catalog : Catalog) (name : String) : List Column :=
  query.tables.filterMap fun table => catalog.column? table name

/-- The column that an unqualified name means. -/
def resolveName (query : Query) (catalog : Catalog) (name : String) :
    Except RequestError Column := do
  let _ ← catalog.requireTable query.table
  match query.candidates catalog name with
  | [column] => return column
  | [] => throw (.columnNotFound query.table name)
  | _ => throw (.ambiguousColumn name)

/-- The column that a name qualified by a table means. -/
def resolveQualified (query : Query) (catalog : Catalog) (qualifier name : String) :
    Except RequestError Column := do
  let table ← catalog.requireTable qualifier
  if query.includesTable qualifier then table.requireColumn name
  else throw (.unjoinedTable qualifier)

/-- The column that a reference means. -/
def resolve (query : Query) (catalog : Catalog) (column : ColumnRef) :
    Except RequestError Column :=
  match column.qualifier with
  | some qualifier => query.resolveQualified catalog qualifier column.name
  | none => query.resolveName catalog column.name

/-- Whether a join relates its table to one of those in scope. -/
def connects (query : Query) (scope : List String) (join : Join) : Bool :=
  let left := join.left.table query.table
  let right := join.right.table query.table
  (left == join.table && scope.contains right) || (right == join.table && scope.contains left)

/-- The check of joins, with the tables in scope before the first of them. -/
def checkJoins (query : Query) (catalog : Catalog) (scope : List String) :
    List Join → Except RequestError Unit
  | [] => .ok ()
  | join :: rest => do
    let _ ← catalog.requireTable join.table
    if scope.contains join.table || !query.connects scope join then
      throw (.invalidJoin join.relation)
    let _ ← query.resolve catalog join.left
    let _ ← query.resolve catalog join.right
    query.checkJoins catalog (scope ++ [join.table]) rest

/-- The check of the columns to return. -/
def checkColumns (query : Query) (catalog : Catalog) : List ColumnRef → Except RequestError Unit
  | [] => .ok ()
  | column :: rest => do
    let _ ← query.resolve catalog column
    query.checkColumns catalog rest

end Query

end TableGateway
