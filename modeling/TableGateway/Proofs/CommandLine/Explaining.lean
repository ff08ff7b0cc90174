import TableGateway.CommandLine.Explain
import TableGateway.Proofs.Query.Clause
import TableGateway.Proofs.Service.Handling
import TableGateway.Proofs.Service.Segment

/-!
# Explanations and the service

The command line explains a request by the statement that the service plans for it: the
queries are read by one parser, the bodies by one reader, and the statements are built by
the same functions, though not always in the same order.

There is one difference. The service ignores the clauses of an insertion, but the command
line reads them, and does not explain an insertion whose clauses cannot be read.
-/

namespace TableGateway.CommandLine

open Outcome

/-- The method of the service that a method of the command line stands for. -/
def Method.served : Method → Http.Method
  | get => .get
  | post => .post
  | patch => .patch
  | put => .put
  | delete => .delete

/-- The octets of a body. A body that is not given has none. -/
def bodyOctets (body : Option String) : List UInt8 :=
  Text.utf8Octets (body.getD "").toList

/-- The path of a request about a table. -/
def requestPath (name clauses : String) : String :=
  "/" ++ name ++ "?" ++ clauses

/-! ### Bodies -/

/-- Nothing is no JSON text. -/
theorem ofText?_nil :
  Json.ofText? [] = none
  := rfl

/-- Both sides read the same value from a body. -/
theorem readBody_eq_ok_iff_hasBody {body : Option String} {value : Json} :
  readBody body = .ok value ↔ HasBody (bodyOctets body) value
  := by
  simp only [HasBody, bodyOctets, Text.textOfUtf8?_utf8Octets, Option.some.injEq, exists_eq_left']
  cases body with
  | none =>
      rw [Option.getD_none, String.toList_empty, ofText?_nil]
      constructor
      · intro h
        cases h
      · intro h
        cases h
  | some text =>
      rw [readBody, Option.getD_some]
      cases Json.ofText? text.toList with
      | none =>
          constructor
          · intro h
            cases h
          · intro h
            cases h
      | some found => rw [Except.ok.injEq, Option.some.injEq]

/-! ### Queries -/

/-- The path of a request is read as the query about its name. -/
theorem parsePath_requestPath {name : String} (h : IsName name) (clauses : String) :
  Query.parsePath .standard (requestPath name clauses) = Query.parse .standard name clauses
  := Plan.query_of_names ⟨h, Or.inl rfl⟩ (some clauses)

/-- The table of a query is the one it is asked about, whatever its clauses. -/
theorem table_of_parse
    {operators : OperatorTable} {name clauses : String} {query : Query}
    (h : Query.parse operators name clauses = .ok query) :
  query.table = name
  := by
  have hstep : ∀ (query : Query) (text : List Char) (query' : Query), query.table = name →
      query.apply <$> Query.parseClause operators text = .ok query' → query'.table = name := by
    intro query text query' htable h
    obtain ⟨clause, -, rfl⟩ := map_eq_ok_iff.mp h
    rw [← htable]
    apply Query.table_foldl_apply query [clause]
  have hstart : (Query.ofTable name).table = name := rfl
  apply foldlM_induction hstep hstart h

/-! ### Statements -/

/-- The service and the command line have the same statement for a request, if the command
line can read its clauses. -/
structure Agrees
    (catalog : Catalog) (name clauses : String) (body : Option String) (method : Method)
    (request : TableRequest) : Prop where
  served : Http.TableRequest.ofMethod? method.served (some clauses) (bodyOctets body) = some request
  explained : ∀ statement, explain catalog method body (requestPath name clauses) = .ok statement
    ↔ request.plan catalog name = .ok statement
      ∧ (method = .post → ∃ query, Query.parse .standard name clauses = .ok query)

section Agrees

variable {name : String} (hname : IsName name) (catalog : Catalog) (clauses : String)

include hname

/-- A request is explained exactly if its query can be read and a statement made of it. -/
theorem explain_eq_ok_iff
    {catalog : Catalog} {method : Method} {body : Option String} {clauses : String}
    {statement : Statement} :
  explain catalog method body (requestPath name clauses) = .ok statement
    ↔ ∃ query, Query.parse .standard name clauses = .ok query
      ∧ explainQuery catalog method body query = .ok statement
  := by
  rw [explain, parsePath_requestPath hname]
  simp only [bind_eq_ok_iff, mapError_eq_ok_iff]

/-- Reading is planned and explained alike. -/
theorem agrees_get (body : Option String) :
  Agrees catalog name clauses body .get (.select (some clauses))
  where
  served := rfl
  explained statement := by
    simp only [explain_eq_ok_iff hname, explainQuery, TableRequest.plan, Plan.select,
      Plan.query_of_names ⟨hname, Or.inl rfl⟩, Option.getD_some, bind_eq_ok_iff,
      mapError_eq_ok_iff, reduceCtorEq, false_imp_iff, and_true]

/-- A deletion is planned and explained alike. -/
theorem agrees_delete (body : Option String) :
  Agrees catalog name clauses body .delete (.delete (some clauses))
  where
  served := rfl
  explained statement := by
    simp only [explain_eq_ok_iff hname, explainQuery, TableRequest.plan, Plan.delete,
      Plan.query_of_names ⟨hname, Or.inl rfl⟩, Option.getD_some, bind_eq_ok_iff,
      mapError_eq_ok_iff, reduceCtorEq, false_imp_iff, and_true]

/-- The service reads the body of a change first, and the command line its query. -/
theorem explain_patch_eq_ok_iff {body : Option String} (statement : Statement) :
  explain catalog .patch body (requestPath name clauses) = .ok statement
    ↔ (TableRequest.update (some clauses) (bodyOctets body)).plan catalog name = .ok statement
  := by
  simp only [explain_eq_ok_iff hname, explainQuery, TableRequest.plan, Plan.update,
    Plan.query_of_names ⟨hname, Or.inl rfl⟩, Option.getD_some, bind_eq_ok_iff,
    mapError_eq_ok_iff, readBody_eq_ok_iff_hasBody, TableGateway.readBody_eq_ok_iff]
  constructor
  · rintro ⟨query, hquery, value, hvalue, record, hrecord, h⟩
    use value, hvalue, query, hquery, record
  · rintro ⟨value, hvalue, query, hquery, record, hrecord, h⟩
    use query, hquery, value, hvalue, record

theorem agrees_patch (body : Option String) :
  Agrees catalog name clauses body .patch (.update (some clauses) (bodyOctets body))
  where
  served := rfl
  explained statement := by
    rw [explain_patch_eq_ok_iff hname]
    simp

theorem agrees_put (body : Option String) :
  Agrees catalog name clauses body .put (.update (some clauses) (bodyOctets body))
  where
  served := rfl
  explained statement := by
    have hput : explain catalog .put body (requestPath name clauses)
        = explain catalog .patch body (requestPath name clauses) := rfl
    rw [hput, explain_patch_eq_ok_iff hname]
    simp

/-- Only the command line reads the clauses of an insertion, and nothing of them becomes
part of the statement. -/
theorem agrees_post (body : Option String) :
  Agrees catalog name clauses body .post (.insert (bodyOctets body))
  where
  served := rfl
  explained statement := by
    simp only [explain_eq_ok_iff hname, explainQuery, TableRequest.plan, Plan.insert,
      Plan.query_of_names ⟨hname, Or.inl rfl⟩, Option.getD_none, Plan.parse_empty, bind_eq_ok_iff,
      mapError_eq_ok_iff, readBody_eq_ok_iff_hasBody, TableGateway.readBody_eq_ok_iff,
      Except.ok.injEq, exists_eq_left', true_imp_iff]
    constructor
    · rintro ⟨query, hquery, value, hvalue, records, hrecords, h⟩
      rw [table_of_parse hquery] at h
      use ⟨value, hvalue, records, hrecords, h⟩, query
    · rintro ⟨⟨value, hvalue, records, hrecords, h⟩, query, hquery⟩
      use query, hquery, value, hvalue, records, hrecords
      rw [table_of_parse hquery]
      apply h

end Agrees

/-- The command line explains a request about a table by a statement exactly when the
service plans that statement for it, whatever the catalog, the method, the clauses and the
body, except that the clauses of an insertion must be ones that can be read. -/
theorem explanations_agree
    (catalog : Catalog) {name : String} (hname : IsName name) (clauses : String)
    (body : Option String) (method : Method) :
  ∃ request, Agrees catalog name clauses body method request
  := by
  cases method with
  | get => exact ⟨_, agrees_get hname catalog clauses body⟩
  | post => exact ⟨_, agrees_post hname catalog clauses body⟩
  | patch => exact ⟨_, agrees_patch hname catalog clauses body⟩
  | put => exact ⟨_, agrees_put hname catalog clauses body⟩
  | delete => exact ⟨_, agrees_delete hname catalog clauses body⟩

/-- The text of a body with the title of a book. -/
def titleText : String :=
  "\x7b\"title\":\"A\"\x7d"

/-- The service plans the insertion of a book. -/
theorem exists_plan_insert :
  ∃ statement,
    (TableRequest.insert (bodyOctets (some titleText))).plan library "books" = .ok statement
      ∧ statement.sql = "INSERT INTO books (title) VALUES ($1) RETURNING id"
  := by
  have h : ((TableRequest.insert (bodyOctets (some titleText))).plan library "books").toOption.map
      Statement.sql = some "INSERT INTO books (title) VALUES ($1) RETURNING id" := by
    decide +kernel
  obtain ⟨statement, hplan, hsql⟩ := Option.map_eq_some_iff.mp h
  use statement, toOption_eq_some_iff.mp hplan

theorem explanations_agree_library :
  IsName "books"
    ∧ (∃ statement, (TableRequest.delete (some "where=id==1")).plan library "books" = .ok statement
      ∧ explain library .delete none (requestPath "books" "where=id==1") = .ok statement)
    ∧ ∃ statement,
      (TableRequest.insert (bodyOctets (some titleText))).plan library "books" = .ok statement
        ∧ explain library .post (some titleText) (requestPath "books" "limit=1") = .ok statement
  := by
  have hname : IsName "books" := by decide
  use hname
  constructor
  · obtain ⟨request, hagrees⟩ := explanations_agree library hname "where=id==1" none .delete
    cases hagrees.served
    have hsome : ((TableRequest.delete (some "where=id==1")).plan library
        "books").toOption.isSome = true := by decide +kernel
    obtain ⟨statement, hplan⟩ := Option.isSome_iff_exists.mp hsome
    rw [toOption_eq_some_iff] at hplan
    use statement, hplan
    apply (hagrees.explained statement).mpr
    use hplan
    intro h
    cases h
  · obtain ⟨request, hagrees⟩ := explanations_agree library hname "limit=1" (some titleText) .post
    cases hagrees.served
    obtain ⟨statement, hplan, -⟩ := exists_plan_insert
    use statement, hplan
    apply (hagrees.explained statement).mpr
    use hplan
    intro _
    exact ⟨_, rfl⟩

/-- An insertion whose clauses cannot be read is planned by the service, but not explained. -/
theorem insertion_not_explained :
  (∃ statement,
      (TableRequest.insert (bodyOctets (some titleText))).plan library "books" = .ok statement
        ∧ statement.sql = "INSERT INTO books (title) VALUES ($1) RETURNING id")
    ∧ ∀ statement,
      explain library .post (some titleText) (requestPath "books" "page=2") ≠ .ok statement
  := by
  use exists_plan_insert
  intro statement h
  have hrefused : explain library .post (some titleText) (requestPath "books" "page=2")
      = .error (.refused (.invalidKeyword "page")) := rfl
  rw [hrefused] at h
  cases h

end TableGateway.CommandLine
