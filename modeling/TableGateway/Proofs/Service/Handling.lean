import TableGateway.Http.Answer
import TableGateway.Proofs.Database.Binding
import TableGateway.Proofs.Database.Rows
import TableGateway.Proofs.Sql.Fragment

/-!
# The handling of requests about tables

A request about a table asks for a statement if its body can be read and a statement can be
planned. The statement is handed to the database if each of its arguments suits its column,
with one parameter for each of its placeholders. There is no other call.

So a request comes to one of three ends: no statement is planned, an argument does not suit
its column, or a statement is handed over. In the first two the client is to blame; in the
third the reply of the database decides.
-/

namespace TableGateway

open Outcome Sql

/-! ### Replies -/

/-- The database fails, or replies with a row one of whose cells has no JSON value. -/
def Reply.Fails : Reply → Prop
  | none => True
  | some results =>
    ∃ row ∈ results.rows, ∃ column ∈ results.columns.zip row, ResultSet.cellJson? column.2 = none

namespace TableRequest

/-- The body with which a request answers the rows of a reply, one entry for each row in order:
the whole rows if they are read, and their ids if they are changed. -/
inductive Shows (results : ResultSet) : TableRequest → Json → Prop where
  | select {clauses : Option String} {objects : List (List (String × Json))}
      (rows : List.Forall₂ (ResultSet.ShowsRow results.columns) results.rows objects) :
      Shows results (.select clauses) (.object [("data", .array (objects.map .object))])
  | insert {body : List UInt8} {ids : List Json}
      (rows : List.Forall₂ (ResultSet.ShowsId results.columns) results.rows ids) :
      Shows results (.insert body) (.object [("data", .object [("ids", .array ids)])])
  | update {clauses : Option String} {body : List UInt8} {ids : List Json}
      (rows : List.Forall₂ (ResultSet.ShowsId results.columns) results.rows ids) :
      Shows results (.update clauses body) (.object [("data", .object [("ids", .array ids)])])
  | delete {clauses : Option String} {ids : List Json}
      (rows : List.Forall₂ (ResultSet.ShowsId results.columns) results.rows ids) :
      Shows results (.delete clauses) (.object [("data", .object [("ids", .array ids)])])

variable {request : TableRequest}

/-- There is one body for the rows of a reply. -/
theorem Shows.unique
    {results : ResultSet} {body other : Json} (h : request.Shows results body)
    (hother : request.Shows results other) :
  body = other
  := by
  have hobjects : Relator.RightUnique (ResultSet.ShowsRow results.columns) := by
    intro row members others hmembers hothers
    apply hmembers.unique hothers
  have hids : Relator.RightUnique (ResultSet.ShowsId results.columns) := by
    intro row id other hid hother
    apply hid.unique hother
  cases h with
  | select rows =>
      cases hother with
      | select rows' => rw [hobjects.forall₂ rows rows']
  | insert rows =>
      cases hother with
      | insert rows' => rw [hids.forall₂ rows rows']
  | update rows =>
      cases hother with
      | update rows' => rw [hids.forall₂ rows rows']
  | delete rows =>
      cases hother with
      | delete rows' => rw [hids.forall₂ rows rows']

/-- What a reply is read as is shown in the body. -/
theorem shows_of_read?
    {results : ResultSet} {values : List Json} (h : request.read? results = some values) :
  request.Shows results (request.successBody values)
  := by
  cases request with
  | select _ =>
      obtain ⟨objects, hobjects, rfl⟩ := ResultSet.exists_shows_of_rowsJson? h
      apply Shows.select hobjects
  | insert _ => apply Shows.insert (ResultSet.showsId_of_idsJson? h)
  | update _ _ => apply Shows.update (ResultSet.showsId_of_idsJson? h)
  | delete _ => apply Shows.delete (ResultSet.showsId_of_idsJson? h)

theorem read?_eq_none_iff_rowsJson? {results : ResultSet} :
  request.read? results = none ↔ results.rowsJson? = none
  := by
  cases request with
  | select _ => exact Iff.rfl
  | insert _ => apply Option.map_eq_none_iff
  | update _ _ => apply Option.map_eq_none_iff
  | delete _ => apply Option.map_eq_none_iff

/-- A reply cannot be read exactly when it fails. -/
theorem read?_eq_none_iff {reply : Reply} :
  reply.bind request.read? = none ↔ reply.Fails
  := by
  cases reply with
  | none => simp [Reply.Fails]
  | some results =>
      simp only [Option.bind_some, read?_eq_none_iff_rowsJson?, ResultSet.rowsJson?,
        mapM_eq_none_iff, Reply.Fails, ResultSet.rowJson?_eq_none_iff]

end TableRequest

/-! ### Planning -/

/-- The JSON value that the octets of a body are the text of. -/
def HasBody (body : List UInt8) (value : Json) : Prop :=
  ∃ text, Text.textOfUtf8? body = some text ∧ Json.ofText? text = some value

/-- A body is read as a value exactly if it is the text of it. -/
theorem readBody_eq_ok_iff {body : List UInt8} {value : Json} :
  readBody body = .ok value ↔ HasBody body value
  := by
  rw [HasBody, readBody, ← Option.bind_eq_some_iff]
  cases (Text.textOfUtf8? body).bind Json.ofText? with
  | none =>
      constructor
      · intro h
        cases h
      · intro h
        cases h
  | some found => rw [Except.ok.injEq, Option.some.injEq]

theorem eq_unreadableBody_of_readBody
    {body : List UInt8} {e : ServiceError} (h : readBody body = .error e) :
  e = .unreadableBody
  := by
  rw [readBody] at h
  split at h
  · cases h
  · cases h
    rfl

namespace TableRequest

/-- The statement that a request about a table asks for: its body can be read, if it needs
one, and the statement can be planned. -/
inductive Asks (catalog : Catalog) (table : String) : TableRequest → Statement → Prop where
  | select {clauses : Option String} {statement : Statement}
      (plan : Plan.select catalog table clauses = .ok statement) :
      Asks catalog table (.select clauses) statement
  | insert {body : List UInt8} {value : Json} {statement : Statement} (read : HasBody body value)
      (plan : Plan.insert catalog table value = .ok statement) :
      Asks catalog table (.insert body) statement
  | update {clauses : Option String} {body : List UInt8} {value : Json} {statement : Statement}
      (read : HasBody body value)
      (plan : Plan.update catalog table clauses value = .ok statement) :
      Asks catalog table (.update clauses body) statement
  | delete {clauses : Option String} {statement : Statement}
      (plan : Plan.delete catalog table clauses = .ok statement) :
      Asks catalog table (.delete clauses) statement

variable {catalog : Catalog} {table : String} {request : TableRequest} {statement : Statement}

/-- A request is planned as a statement exactly if it asks for it. -/
theorem plan_eq_ok_iff :
  request.plan catalog table = .ok statement ↔ request.Asks catalog table statement
  := by
  cases request with
  | select clauses =>
      rw [plan, mapError_eq_ok_iff]
      constructor
      · intro h
        apply Asks.select h
      · intro h
        cases h with
        | select h => apply h
  | insert body =>
      simp only [plan, bind_eq_ok_iff, readBody_eq_ok_iff, mapError_eq_ok_iff]
      constructor
      · rintro ⟨value, hread, h⟩
        apply Asks.insert hread h
      · intro h
        cases h with
        | insert hread h => exact ⟨_, hread, h⟩
  | update clauses body =>
      simp only [plan, bind_eq_ok_iff, readBody_eq_ok_iff, mapError_eq_ok_iff]
      constructor
      · rintro ⟨value, hread, h⟩
        apply Asks.update hread h
      · intro h
        cases h with
        | update hread h => exact ⟨_, hread, h⟩
  | delete clauses =>
      rw [plan, mapError_eq_ok_iff]
      constructor
      · intro h
        apply Asks.delete h
      · intro h
        cases h with
        | delete h => apply h

/-- A request asks for one statement. -/
theorem Asks.unique
    {other : Statement} (h : request.Asks catalog table statement)
    (hother : request.Asks catalog table other) :
  statement = other
  := by
  rw [← plan_eq_ok_iff] at h hother
  rw [h] at hother
  apply Except.ok.inj hother

/-- The placeholders of the statement of a request number its arguments. -/
theorem Asks.numbersArguments (h : request.Asks catalog table statement) :
  statement.NumbersArguments
  := by
  cases h with
  | select h =>
      obtain ⟨query, -, h⟩ := bind_eq_ok_iff.mp h
      apply Statement.numbersArguments_select h
  | insert _ h =>
      obtain ⟨query, -, h⟩ := bind_eq_ok_iff.mp h
      obtain ⟨records, -, h⟩ := bind_eq_ok_iff.mp h
      apply Statement.numbersArguments_insert h
  | update _ h =>
      obtain ⟨query, -, h⟩ := bind_eq_ok_iff.mp h
      obtain ⟨record, -, h⟩ := bind_eq_ok_iff.mp h
      apply Statement.numbersArguments_update h
  | delete h =>
      obtain ⟨query, -, h⟩ := bind_eq_ok_iff.mp h
      apply Statement.numbersArguments_delete h

end TableRequest

/-! ### The statuses of errors -/

/-- An error that the client is to blame for. -/
def ServiceError.IsClientError (e : ServiceError) : Prop :=
  e.status = 400 ∨ e.status = 404

/-- An error of planning is a bad request or about something that is not found. -/
theorem RequestError.status_eq (e : RequestError) :
  e.status = 400 ∨ e.status = 404
  := by
  cases e <;> simp [status]

theorem ServiceError.isClientError_unreadableBody :
  unreadableBody.IsClientError
  := Or.inl rfl

theorem ServiceError.isClientError_unbindable (e : BindingError) :
  (unbindable e).IsClientError
  := Or.inl rfl

theorem ServiceError.isClientError_of_mapError
    {α : Type} {outcome : Except RequestError α} {e : ServiceError}
    (h : outcome.mapError refused = .error e) :
  e.IsClientError
  := by
  obtain ⟨cause, -, rfl⟩ := mapError_eq_error_iff.mp h
  apply cause.status_eq

/-- The client is to blame for a body that cannot be read or planned with. -/
theorem ServiceError.isClientError_of_readBody
    {α : Type} {body : List UInt8} {outcome : Json → Except RequestError α} {e : ServiceError}
    (h : (readBody body >>= fun value => (outcome value).mapError refused) = .error e) :
  e.IsClientError
  := by
  obtain hread | ⟨value, -, h⟩ := bind_eq_error_iff.mp h
  · rw [eq_unreadableBody_of_readBody hread]
    apply isClientError_unreadableBody
  · apply isClientError_of_mapError h

/-- The client is to blame if no statement is planned. -/
theorem TableRequest.isClientError_of_plan
    {catalog : Catalog} {table : String} {request : TableRequest} {e : ServiceError}
    (h : request.plan catalog table = .error e) :
  e.IsClientError
  := by
  cases request with
  | select clauses => apply ServiceError.isClientError_of_mapError h
  | insert body => apply ServiceError.isClientError_of_readBody h
  | update clauses body => apply ServiceError.isClientError_of_readBody h
  | delete clauses => apply ServiceError.isClientError_of_mapError h

/-! ### Execution -/

/-- A call for a statement: its text, and one parameter for each of its placeholders, which
are numbered in order and stand for its arguments. -/
structure Statement.HandedBy (statement : Statement) (call : Call) : Prop where
  sql : call.sql = statement.sql
  text : call.sql = textOf statement.command.fragments
  placeholders : placeholdersOf statement.command.fragments = List.range' 1 call.parameters.length
  bound : Argument.BoundTo statement.arguments call.parameters

/-- A statement whose arguments are bound is handed over by the call with its text. -/
theorem Statement.handedBy_of_bound
    {statement : Statement} (hnumbers : statement.NumbersArguments) {parameters : List Parameter}
    (h : Argument.BoundTo statement.arguments parameters) :
  statement.HandedBy ⟨statement.sql, parameters⟩
  := by
  constructor
  · rfl
  · apply (Command.textOf_fragments statement.command).symm
  · rw [hnumbers, h.length_eq]
  · apply h

/-- There is one call for a statement. -/
theorem Statement.HandedBy.unique
    {statement : Statement} {call other : Call} (h : statement.HandedBy call)
    (hother : statement.HandedBy other) :
  call = other
  := by
  have hparameters := h.bound.unique hother.bound
  cases call
  cases other
  rw [Call.mk.injEq]
  use h.sql.trans hother.sql.symm

namespace TableRequest

variable (catalog : Catalog) (table : String) (request : TableRequest)

/-- The ends that a request about a table comes to. -/
inductive Execution : Exchange (Except ServiceError (List Json)) → Prop where
  | unplanned {e : ServiceError} (plan : request.plan catalog table = .error e) :
      Execution (.done (.error e))
  | unbound {statement : Statement} {index : Nat} {argument : Argument}
      (asks : request.Asks catalog table statement)
      (misfit : Argument.FirstMisfit statement.arguments index argument) :
      Execution (.done (.error (.unbindable ⟨1 + index, argument⟩)))
  | handed {statement : Statement} {call : Call}
      {finish : Reply → Except ServiceError (List Json)}
      (asks : request.Asks catalog table statement) (handedBy : statement.HandedBy call)
      (fails : ∀ reply : Reply, reply.Fails → finish reply = .error .database)
      (shows : ∀ reply : Reply, ¬ reply.Fails → ∃ results values, reply = some results
        ∧ request.Shows results (request.successBody values) ∧ finish reply = .ok values) :
      Execution (.call call finish)

/-- Every request comes to one of the three ends. -/
theorem execution :
  Execution catalog table request (request.execute catalog table)
  := by
  rw [execute]
  cases hplan : request.plan catalog table with
  | error e => apply Execution.unplanned hplan
  | ok statement =>
      have hasks := plan_eq_ok_iff.mp hplan
      cases hbind : Argument.bindAll statement.arguments with
      | error e =>
          obtain ⟨index, hmisfit, hnumber⟩ := Argument.firstMisfit_of_bindFrom hbind
          have he : e = ⟨1 + index, e.argument⟩ := by rw [← hnumber]
          simp only [fetch, Statement.toCall, hbind]
          rw [he]
          apply Execution.unbound hasks hmisfit
      | ok parameters =>
          have hbound := Argument.bindFrom_eq_ok_iff.mp hbind
          simp only [fetch, Statement.toCall, hbind]
          apply Execution.handed hasks
          · apply Statement.handedBy_of_bound hasks.numbersArguments hbound
          · intro reply hfails
            rw [read?_eq_none_iff.mpr hfails]
          · intro reply hfails
            rw [← read?_eq_none_iff, ← ne_eq, Option.ne_none_iff_exists'] at hfails
            obtain ⟨values, hvalues⟩ := hfails
            obtain ⟨results, rfl, hread⟩ := Option.bind_eq_some_iff.mp hvalues
            use results, values, rfl, shows_of_read? hread
            rw [hvalues]

end TableRequest

/-! ### Responses -/

namespace Http

open Argument

/-- A response has a status, sends a JSON value as its body, and repeats the id of its request. -/
structure Response.Sends
    (response : Response) (requestId : String) (status : Nat) (body : Json) : Prop where
  status : response.status = status
  body : response.body = .json body
  sent : response.hidden = false
  headers : response.headers = answerHeaders requestId

theorem sends_answer (requestId : String) (status : Nat) (body : Json) :
  (answer requestId status (.json body)).Sends requestId status body
  where
  status := rfl
  body := rfl
  sent := rfl
  headers := rfl

/-- The body of the response to a request one of whose arguments does not suit its column.
The arguments are counted from one. -/
def misfitBody (requestId : String) (index : Nat) (argument : Argument) : Json :=
  .object [("error", .object [
    ("code", .string "BAD_REQUEST"),
    ("message", .string ("argument $" ++ Number.natText (index + 1) ++ ": invalid "
      ++ argument.type.name ++ " value: " ++ argument.value.compact)),
    ("requestId", .string requestId)])]

/-- A task handles a request about a table, and `status` is that of a success: what the
database receives, when it receives nothing, and what the response is to each of its
replies. -/
structure Handles
    (catalog : Catalog) (table : String) (request : TableRequest) (requestId : String)
    (status : Nat) (task : Exchange Response) : Prop where
  once : task.calls.length ≤ 1
  handed : ∀ call, call ∈ task.calls
    ↔ ∃ statement, request.Asks catalog table statement ∧ statement.HandedBy call
  called : task.calls ≠ []
    ↔ ∃ statement, request.Asks catalog table statement ∧ AllSuit statement.arguments
  refused : ∀ database, task.calls = [] →
    (task.run database).status = 400 ∨ (task.run database).status = 404
  misfit : ∀ database statement index argument, request.Asks catalog table statement →
    FirstMisfit statement.arguments index argument →
      (task.run database).Sends requestId 400 (misfitBody requestId index argument)
  failed : ∀ database, (task.run database).status = 500
    ↔ ∃ call ∈ task.calls, Reply.Fails (database call)
  succeeded : ∀ database, ∀ call ∈ task.calls, ¬ Reply.Fails (database call) →
    ∃ results body, database call = some results ∧ request.Shows results body
      ∧ (task.run database).Sends requestId status body

/-- An insertion succeeds with the status 201, and every other request with 200. -/
theorem successStatus_of_ofMethod?
    {method : Method} {clauses : Option String} {body : List UInt8} {request : TableRequest}
    (h : TableRequest.ofMethod? method clauses body = some request) :
  request.successStatus = if method = .post then 201 else 200
  := by
  cases method <;> cases h <;> rfl

section Handles

variable {catalog : Catalog} {table : String} {request : TableRequest} (requestId : String)

/-- What a request that ends with an error of the client has to meet. -/
theorem handles_of_clientError
    {e : ServiceError} (hclient : e.IsClientError)
    (hsuit : ∀ statement, request.Asks catalog table statement → ¬ AllSuit statement.arguments)
    (hmisfit : ∀ statement index argument, request.Asks catalog table statement →
      FirstMisfit statement.arguments index argument → e = .unbindable ⟨1 + index, argument⟩) :
  Handles catalog table request requestId request.successStatus
    (.done (tableResponse requestId request (.error e)))
  where
  once := Nat.zero_le 1
  handed call := by
    constructor
    · intro h
      cases h
    · rintro ⟨statement, hasks, hhanded⟩
      cases hsuit statement hasks (exists_boundTo_iff.mp ⟨call.parameters, hhanded.bound⟩)
  called := by
    constructor
    · intro h
      cases h rfl
    · rintro ⟨statement, hasks, hall⟩
      cases hsuit statement hasks hall
  refused database _ := hclient
  misfit database statement index argument hasks hfirst := by
    rw [hmisfit statement index argument hasks hfirst, Nat.add_comm]
    apply sends_answer
  failed database := by
    constructor
    · intro h
      obtain hstatus | hstatus := hclient
      · cases hstatus.symm.trans h
      · cases hstatus.symm.trans h
    · rintro ⟨_, h, -⟩
      cases h
  succeeded database call h := by
    cases h

/-- What a request that ends with a call has to meet. -/
theorem handles_of_call
    {statement : Statement} (hasks : request.Asks catalog table statement) {call : Call}
    (hhanded : statement.HandedBy call) {finish : Reply → Except ServiceError (List Json)}
    (hfails : ∀ reply : Reply, reply.Fails → finish reply = .error .database)
    (hshows : ∀ reply : Reply, ¬ reply.Fails → ∃ results values, reply = some results
      ∧ request.Shows results (request.successBody values) ∧ finish reply = .ok values) :
  Handles catalog table request requestId request.successStatus
    (.call call fun reply => tableResponse requestId request (finish reply))
  := by
  have hall : AllSuit statement.arguments :=
    exists_boundTo_iff.mp ⟨call.parameters, hhanded.bound⟩
  constructor
  case once => apply Nat.le_refl
  case handed =>
    intro other
    rw [Exchange.calls, List.mem_singleton]
    constructor
    · rintro rfl
      use statement, hasks
    · rintro ⟨asked, hasked, hother⟩
      rw [← hasks.unique hasked] at hother
      apply hother.unique hhanded
  case called =>
    constructor
    · intro _
      use statement, hasks
    · intro _
      apply List.cons_ne_nil
  case refused =>
    intro database h
    cases h
  case misfit =>
    intro database asked index argument hasked hfirst
    rw [← hasks.unique hasked] at hfirst
    cases hfirst.not_allSuit hall
  case failed =>
    intro database
    simp only [Exchange.calls, List.mem_singleton, exists_eq_left, Exchange.run]
    constructor
    · intro hstatus
      -- A reply that can be shown is answered with the status of a success.
      by_contra hsound
      obtain ⟨results, values, -, -, hfinish⟩ := hshows (database call) hsound
      rw [hfinish] at hstatus
      cases request <;> cases hstatus
    · intro h
      rw [hfails (database call) h]
      rfl
  case succeeded =>
    intro database other hother hsound
    rw [Exchange.calls, List.mem_singleton] at hother
    subst hother
    obtain ⟨results, values, hreply, hvalues, hfinish⟩ := hshows (database other) hsound
    use results, request.successBody values, hreply, hvalues
    rw [Exchange.run, hfinish]
    apply sends_answer

/-- Whatever end a request comes to, it is handled. -/
theorem handles_of_execution
    {task : Exchange (Except ServiceError (List Json))}
    (h : request.Execution catalog table task) :
  Handles catalog table request requestId request.successStatus
    (task.map (tableResponse requestId request))
  := by
  cases h with
  | unplanned hplan =>
      have hnone : ∀ statement, ¬ request.Asks catalog table statement := by
        intro statement hasks
        rw [TableRequest.plan_eq_ok_iff.mpr hasks] at hplan
        cases hplan
      apply handles_of_clientError requestId (TableRequest.isClientError_of_plan hplan)
      · intro statement hasks
        cases hnone statement hasks
      · intro statement _ _ hasks
        cases hnone statement hasks
  | unbound hasks hmisfit =>
      apply handles_of_clientError requestId (ServiceError.isClientError_unbindable _)
      · intro other hother
        rw [← hasks.unique hother]
        apply hmisfit.not_allSuit
      · intro other _ _ hother hfirst
        rw [← hasks.unique hother] at hfirst
        obtain ⟨rfl, rfl⟩ := hmisfit.unique hfirst
        rfl
  | handed hasks hhanded hfails hshows =>
      apply handles_of_call requestId hasks hhanded hfails hshows

end Handles

/-- What becomes of a request about a table, whatever the catalog, the request and the
database. The database receives at most one call, and it receives one exactly when the body
can be read, a statement is planned and each argument suits its column. The call is for that
statement. Without a call the client is to blame, and the first argument that does not suit
is named. With one, the request fails exactly when the reply does, and otherwise it is
answered with one entry for each row, in order: the row itself if rows are read, and its id if
they are changed. -/
theorem requests_handled
    (catalog : Catalog) (requestId : String) {segment table : List Char}
    (hsegment : Text.Percent.decode? segment = some table) {method : Method}
    {clauses : Option String} {body : List UInt8} {request : TableRequest}
    (hrequest : TableRequest.ofMethod? method clauses body = some request) :
  Handles catalog (String.ofList table) request requestId (if method = .post then 201 else 200)
    (answerRoute catalog requestId method clauses body (.table segment))
  := by
  have h := handles_of_execution requestId
    (request.execution catalog (String.ofList table))
  rw [successStatus_of_ofMethod? hrequest] at h
  simp only [answerRoute, hrequest, answerTable, hsegment]
  apply h

/-- The octets of a body with the title of a book. -/
def titleBody : List UInt8 :=
  Text.utf8Octets "\x7b\"title\":\"A\"\x7d".toList

/-- A request to insert a book. -/
def insertion : Exchange Response :=
  answerRoute library "r" .post none titleBody (.table "books".toList)

/-- A request to read the books. -/
def selection : Exchange Response :=
  answerRoute library "r" .get none [] (.table "books".toList)

/-- A request to delete books whose second condition compares numbers with a word. -/
def deletion : Exchange Response :=
  answerRoute library "r" .delete (some "where=title==A;id==x") [] (.table "books".toList)

/-- A reply with one row, which has an id and a null. -/
def bookReply : Reply :=
  some ⟨["id", "title"], [[some (.integer 7), none]]⟩

theorem not_fails_bookReply :
  ¬ Reply.Fails bookReply
  := by
  rintro ⟨row, hrow, column, hcolumn, h⟩
  rw [List.mem_singleton] at hrow
  subst hrow
  simp only [List.zip_cons_cons, List.zip_nil_right, List.mem_cons, List.not_mem_nil,
    or_false] at hcolumn
  rcases hcolumn with rfl | rfl <;> cases h

/-- The body for the reply is the one that is made of what the reply is read as. -/
theorem bodies_bookReply
    {request : TableRequest} {values : List Json}
    (hread : Option.bind bookReply request.read? = some values) {results : ResultSet} {body : Json}
    (hresults : bookReply = some results) (h : request.Shows results body) :
  body = request.successBody values
  := by
  apply h.unique
  apply TableRequest.shows_of_read?
  rw [hresults, Option.bind_some] at hread
  apply hread

theorem exists_plan_deletion :
  ∃ statement, Plan.delete library "books" (some "where=title==A;id==x") = .ok statement
    ∧ statement.arguments = [⟨.string "A", .string⟩, ⟨.string "x", .int⟩]
  := by
  have hquery : Plan.query "books" (some "where=title==A;id==x")
      = .ok { Query.ofTable "books" with conditions := [⟨⟨none, "title", none⟩, .equal, ["A"], rfl⟩,
        ⟨⟨none, "id", none⟩, .equal, ["x"], rfl⟩] } := by decide +kernel
  rw [Plan.delete, hquery]
  exact ⟨_, rfl, rfl⟩

/-- The insertion is handed over: it fails if the database does, and is answered with the id
of the new row otherwise. The books are answered as they stand in the reply. The deletion is
refused for its second argument. -/
theorem requests_handled_library :
  Text.Percent.decode? "books".toList = some "books".toList
    ∧ TableRequest.ofMethod? .post none titleBody = some (.insert titleBody)
    ∧ (insertion.run fun _ => none).status = 500
    ∧ (insertion.run fun _ => bookReply).Sends "r" 201
      (.object [("data", .object [("ids", .array [.number (.integer 7)])])])
    ∧ TableRequest.ofMethod? .get none [] = some (.select none)
    ∧ (selection.run fun _ => bookReply).Sends "r" 200 (.object [("data", .array
      [.object [("id", .number (.integer 7)), ("title", .null)]])])
    ∧ TableRequest.ofMethod? .delete (some "where=title==A;id==x") []
      = some (.delete (some "where=title==A;id==x"))
    ∧ (deletion.run fun _ => bookReply).Sends "r" 400 (misfitBody "r" 1 ⟨.string "x", .int⟩)
  := by
  have hsegment : Text.Percent.decode? "books".toList = some "books".toList := by decide +kernel
  have hpost : TableRequest.ofMethod? .post none titleBody = some (.insert titleBody) := rfl
  have hget : TableRequest.ofMethod? .get none [] = some (.select none) := rfl
  have hdelete : TableRequest.ofMethod? .delete (some "where=title==A;id==x") []
      = some (.delete (some "where=title==A;id==x")) := rfl
  have hinserted := requests_handled library "r" hsegment hpost
  have hselected := requests_handled library "r" hsegment hget
  have hdeleted := requests_handled library "r" hsegment hdelete
  obtain ⟨insertCall, hinsertCall⟩ := List.exists_mem_of_length_pos (l := insertion.calls)
    (by decide +kernel)
  obtain ⟨selectCall, hselectCall⟩ := List.exists_mem_of_length_pos (l := selection.calls)
    (by decide +kernel)
  use hsegment, hpost
  constructor
  · apply (hinserted.failed _).mpr
    use insertCall, hinsertCall
    trivial
  constructor
  · obtain ⟨results, body, hresults, hbody, hsends⟩ :=
      hinserted.succeeded (fun _ => bookReply) insertCall hinsertCall not_fails_bookReply
    rw [bodies_bookReply rfl hresults hbody] at hsends
    apply hsends
  use hget
  constructor
  · obtain ⟨results, body, hresults, hbody, hsends⟩ :=
      hselected.succeeded (fun _ => bookReply) selectCall hselectCall not_fails_bookReply
    rw [bodies_bookReply rfl hresults hbody] at hsends
    apply hsends
  use hdelete
  obtain ⟨statement, hplan, harguments⟩ := exists_plan_deletion
  apply hdeleted.misfit _ statement 1 ⟨.string "x", .int⟩ (.delete hplan)
  rw [harguments]
  apply (firstMisfit_cons_of_misfit rfl []).cons rfl

end Http

end TableGateway
