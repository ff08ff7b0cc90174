import TableGateway.Proofs.Catalog.Lookup
import TableGateway.Proofs.Service.Handling
import TableGateway.Proofs.Service.Segment
import TableGateway.Proofs.Text.Spelling

/-!
# The tables that are exposed

The paths of the service and those of tables share one level, and a fixed path of the
service comes first. So every table of the catalog whose name is an identifier is exposed
at the path of its name, with all methods that handle tables, except for tables that have
the name of a fixed path. Such a table is hidden: its path is answered without the
database if rows are asked for, and every other method is not allowed there.

Every body here is one that the server has taken. What it turns away for its length, more than
two mebibytes, comes to no table.
-/

namespace TableGateway

open Outcome

/-! ### Routes of names -/

/-- The names of the fixed paths. -/
def Http.Route.fixedNames : List String :=
  ["health", "tables"]

theorem IsName.decode?_toList {name : String} (h : IsName name) :
  Text.Percent.decode? name.toList = some name.toList
  := Text.decode?_of_spells (Text.spellsOctets_self h.isIdentifierChar)

theorem Http.Route.ofPath?_of_isName
    {name : String} (hname : IsName name) (hfixed : name ∉ fixedNames) :
  ofPath? ('/' :: name.toList) = some (.table name.toList)
  := by
  simp only [fixedNames, List.mem_cons, List.not_mem_nil, or_false, not_or] at hfixed
  have hslash : name.toList.contains '/' = false := by
    rw [← Bool.not_eq_true, List.contains_iff_mem]
    intro h
    cases hname.isIdentifierChar '/' h
  rw [ofPath?, if_neg (mt String.toList_inj.mp hfixed.1), if_neg (mt String.toList_inj.mp hfixed.2),
    if_neg]
  rw [Bool.or_eq_true, List.isEmpty_iff, not_or, hslash]
  use hname.ne_nil
  decide

/-! ### What requests for tables are answered with -/

theorem ServiceError.status_ne_notAllowed (e : ServiceError) :
  e.status ≠ 405
  := by
  cases e with
  | unreadableBody => decide
  | refused e =>
      intro h
      rcases e.status_eq with hstatus | hstatus
      · cases hstatus.symm.trans h
      · cases hstatus.symm.trans h
  | unbindable e =>
      intro h
      cases h
  | database => decide

namespace TableRequest

variable {catalog : Catalog} {table : String} {request : TableRequest}

/-- The values that a request succeeds with make a body that shows the rows of a reply. -/
theorem exists_shows_of_run
    {database : Call → Reply} {values : List Json}
    (h : (request.execute catalog table).run database = .ok values) :
  ∃ results, request.Shows results (request.successBody values)
  := by
  have hexecution := request.execution catalog table
  cases htask : request.execute catalog table with
  | done outcome =>
      rw [htask] at h hexecution
      rw [Exchange.run] at h
      cases hexecution with
      | unplanned _ => cases h
      | unbound _ _ => cases h
  | call call finish =>
      rw [htask] at h hexecution
      rw [Exchange.run] at h
      cases hexecution with
      | handed _ _ hfails hshows =>
          by_cases hreply : (database call).Fails
          · rw [hfails _ hreply] at h
            cases h
          · obtain ⟨results, shown, -, hshown, hfinish⟩ := hshows _ hreply
            rw [hfinish] at h
            cases h
            use results

end TableRequest

namespace Http

/-- The body at the path that shows whether the service is up. -/
def healthBody : Body :=
  .json (.object [("status", .string "ok")])

/-- The body at the path that lists the tables. -/
def namesBody (catalog : Catalog) : Body :=
  .json (.object [("data", .array (catalog.tableNames.map Json.string))])

variable {catalog : Catalog} {name requestId : String} {request : TableRequest}

theorem status_tableResponse_ne (outcome : Except ServiceError (List Json)) :
  (tableResponse requestId request outcome).status ≠ 405
  := by
  cases outcome with
  | error e => apply e.status_ne_notAllowed
  | ok values => cases request <;> simp [tableResponse, answer, TableRequest.successStatus]

theorem body_tableResponse_ne_healthBody (outcome : Except ServiceError (List Json)) :
  (tableResponse requestId request outcome).body ≠ healthBody
  := by
  cases outcome with
  | error e =>
      simp [tableResponse, answer, healthBody, ServiceError.toJson]
  | ok values =>
      cases request <;> simp [tableResponse, answer, healthBody, TableRequest.successBody]

/-- A list of rows is not a list of names, unless there is no table. -/
theorem body_tableResponse_ne_namesBody
    {table : Table} (htable : table ∈ catalog.tables) (database : Call → Reply) :
  (tableResponse requestId request ((request.execute catalog name).run database)).body
    ≠ namesBody catalog
  := by
  cases houtcome : (request.execute catalog name).run database with
  | error e => simp [tableResponse, answer, namesBody, ServiceError.toJson]
  | ok values =>
      obtain ⟨results, hshows⟩ := TableRequest.exists_shows_of_run houtcome
      simp only [tableResponse, answer, namesBody]
      generalize request.successBody values = body at hshows ⊢
      cases hshows with
      | @select _ objects _ =>
          intro h
          have hnames : objects.map Json.object = catalog.tableNames.map Json.string := by
            simpa using h
          have hname : Json.string table.name ∈ objects.map Json.object := by
            rw [hnames, catalog.tableNames_eq]
            apply List.mem_map_of_mem (List.mem_map_of_mem htable)
          obtain ⟨members, -, hmembers⟩ := List.mem_map.mp hname
          cases hmembers
      | insert _ => simp
      | update _ => simp
      | delete _ => simp

/-! ### Answers at the paths of names -/

/-- The methods that tables are read and changed with. -/
def Method.aboutTables : List Method :=
  [.get, .post, .patch, .put, .delete]

theorem exists_ofMethod?
    {method : Method} (hmethod : method ∈ Method.aboutTables) (clauses : Option String)
    (body : List UInt8) :
  ∃ request, TableRequest.ofMethod? method clauses body = some request
  := by
  simp only [Method.aboutTables, List.mem_cons, List.not_mem_nil, or_false] at hmethod
  rcases hmethod with rfl | rfl | rfl | rfl | rfl
  all_goals exact ⟨_, rfl⟩

/-- No response to a request about a table is hidden, unless it is asked to be. -/
theorem map_hidden_false (task : Exchange (Except ServiceError (List Json))) :
  ((task.map (tableResponse requestId request)).map fun response =>
      { response with hidden := false })
    = task.map (tableResponse requestId request)
  := by
  have hsame : ∀ outcome,
      { tableResponse requestId request outcome with hidden := false }
        = tableResponse requestId request outcome := by
    intro outcome
    cases outcome <;> rfl
  cases task with
  | done outcome => simp only [Exchange.map, hsame]
  | call call finish => simp only [Exchange.map, hsame]

section Respond

variable (catalog : Catalog) (fresh : String) {received : Request} {clauses : Option (List Char)}
  (hpath : received.pathAndQuery = ('/' :: name.toList, clauses)) {method : Method}
  (hmethod : received.method = method.name) (htables : method ∈ Method.aboutTables)

include hpath hmethod htables

/-- A path with a route is answered there if the route has the method. -/
theorem respond_of_route
    {route : Route} (hroute : Route.ofPath? ('/' :: name.toList) = some route) :
  respond catalog fresh received
    = if route.methods.contains method then
        (answerRoute catalog (received.id fresh) method (clauses.map String.ofList) received.body
          route).map fun response => { response with hidden := false }
      else .done (notAllowed (received.id fresh) route)
  := by
  have hneither : method ≠ .options ∧ method ≠ .head := by
    have hall : ∀ method ∈ Method.aboutTables, method ≠ .options ∧ method ≠ .head := by decide
    apply hall method htables
  simp only [respond, hpath, hmethod, Method.ofName?_name, hroute, Option.some.injEq, hneither.1,
    if_false, Option.filter_some]
  cases route.methods.contains method with
  | false => rfl
  | true => simp only [if_true, hneither.2, decide_false]

/-- Where only reading is allowed, no row can be changed. -/
theorem refused_of_route
    {route : Route} (hroute : Route.ofPath? ('/' :: name.toList) = some route)
    (hmethods : route.methods = [.get, .head]) (hget : method ≠ .get) :
  ∃ response, respond catalog fresh received = .done response ∧ response.status = 405
  := by
  have hunserved : route.methods.contains method = false := by
    have hall : ∀ method ∈ Method.aboutTables, method ≠ .get →
        [Method.get, .head].contains method = false := by decide
    rw [hmethods]
    apply hall method htables hget
  use notAllowed (received.id fresh) route
  rw [respond_of_route catalog fresh hpath hmethod htables hroute, hunserved]
  exact ⟨rfl, rfl⟩

/-- The answer at the path of a name that is not a fixed one is that of the request about the
table of that name. -/
theorem respond_of_isName
    (hname : IsName name) (hfixed : name ∉ Route.fixedNames)
    (hrequest : TableRequest.ofMethod? method (clauses.map String.ofList) received.body
      = some request) :
  respond catalog fresh received
    = (request.execute catalog name).map (tableResponse (received.id fresh) request)
  := by
  have hserved : (Route.table name.toList).methods.contains method = true := by
    have hall : ∀ method ∈ Method.aboutTables,
        [Method.get, .head, .post, .patch, .put, .delete].contains method = true := by decide
    apply hall method htables
  rw [respond_of_route catalog fresh hpath hmethod htables (Route.ofPath?_of_isName hname hfixed),
    if_pos hserved]
  simp only [answerRoute, hrequest, answerTable, hname.decode?_toList, String.ofList_toList,
    map_hidden_false]

end Respond

/-- A reading request whose statement can be handed over is one call for it, and its rows
are those of the reply. -/
theorem execute_select
    {clauses : Option String} {statement : Statement} {call : Call}
    (hplan : Plan.select catalog name clauses = .ok statement)
    (hcall : statement.toCall = .ok call) :
  ∃ finish, (TableRequest.select clauses).execute catalog name = .call call finish
    ∧ ∀ results rows, results.rowsJson? = some rows → finish (some results) = .ok rows
  := by
  simp only [TableRequest.execute, TableRequest.plan, hplan, Except.mapError, fetch, hcall,
    TableRequest.read?]
  refine ⟨_, rfl, ?_⟩
  intro results rows hrows
  simp only [Option.bind_some, hrows]

/-- The statement for all rows of a table. -/
theorem calls_execute_all
    {table : Table} (htable : table ∈ catalog.tables) (hname : IsName table.name) :
  ((TableRequest.select none).execute catalog table.name).calls
    = [⟨"SELECT * FROM " ++ table.name, []⟩]
  := by
  have hfound : catalog.table? table.name = some table :=
    Catalog.table?_eq_some_iff.mpr ⟨htable, rfl⟩
  have hplan : Plan.select catalog table.name none
      = .ok ⟨.select [] table.name [] [] none none, []⟩ := by
    rw [Plan.select, Plan.query_of_names ⟨hname, Or.inl rfl⟩, Option.getD_none, Plan.parse_empty]
    apply Statement.select_eq_ok_iff.mpr
    refine ⟨⟨table, hfound⟩, rfl, rfl, [], List.Forall₂.nil, rfl⟩
  obtain ⟨finish, hexecute, -⟩ := execute_select hplan rfl
  have htext : (Sql.Command.select [] table.name [] [] none none).text
      = "SELECT * FROM " ++ table.name := by
    rw [Sql.Command.text_select]
    simp [Sql.projectionText, Sql.whereText, Sql.boundText]
  rw [hexecute, Exchange.calls, Statement.sql, htext]

/-! ### Tables at the paths of their names -/

/-- A task is that of the request about a table with a method, and so it is neither the
answer at a fixed path nor a refusal of the method. If the rows of a table are asked for,
the statement that is planned for them is handed to the database, and its rows are the
answer; all rows of the table can be asked for. -/
structure Exposes
    (catalog : Catalog) (name : String) (method : Method) (clauses : Option String)
    (body : List UInt8) (requestId : String) (task : Exchange Response) : Prop where
  handled : ∃ request, TableRequest.ofMethod? method clauses body = some request
    ∧ task = (request.execute catalog name).map (tableResponse requestId request)
  allowed : ∀ database, (task.run database).status ≠ 405
  apart : ∀ database, (task.run database).body ≠ healthBody
    ∧ (task.run database).body ≠ namesBody catalog
  rows : method = .get → ∀ statement call, Plan.select catalog name clauses = .ok statement →
    statement.toCall = .ok call → task.calls = [call]
      ∧ ∀ database results rows, database call = some results → results.rowsJson? = some rows →
        task.run database = answer requestId 200 (.json (.object [("data", .array rows)]))
  whole : method = .get → clauses = none → task.calls = [⟨"SELECT * FROM " ++ name, []⟩]

/-- A task is the answer at a fixed path: its own if rows would be asked for, and a refusal
of every other method. The database is not asked. -/
structure Conceals
    (catalog : Catalog) (name : String) (method : Method) (requestId : String)
    (task : Exchange Response) : Prop where
  health : method = .get → name = "health" → task = .done (answer requestId 200 healthBody)
  tables : method = .get → name = "tables" → task = .done (answer requestId 200 (namesBody catalog))
  refused : method ≠ .get → ∃ response, task = .done response ∧ response.status = 405

theorem exposes_of_isName
    (catalog : Catalog) (fresh : String) {table : Table} (htable : table ∈ catalog.tables)
    (hname : IsName table.name) (hfixed : table.name ∉ Route.fixedNames)
    {received : Request} {clauses : Option (List Char)}
    (hpath : received.pathAndQuery = ('/' :: table.name.toList, clauses)) {method : Method}
    (hmethod : received.method = method.name) (htables : method ∈ Method.aboutTables) :
  Exposes catalog table.name method (clauses.map String.ofList) received.body (received.id fresh)
    (respond catalog fresh received)
  := by
  obtain ⟨request, hrequest⟩ :=
    exists_ofMethod? htables (clauses.map String.ofList) received.body
  rw [respond_of_isName catalog fresh hpath hmethod htables hname hfixed hrequest]
  constructor
  case handled => use request
  case allowed =>
    intro database
    rw [Exchange.run_map]
    apply status_tableResponse_ne
  case apart =>
    intro database
    rw [Exchange.run_map]
    use body_tableResponse_ne_healthBody _
    apply body_tableResponse_ne_namesBody htable
  case rows =>
    rintro rfl statement call hplan hcall
    cases hrequest
    obtain ⟨finish, hexecute, hfinish⟩ := execute_select hplan hcall
    rw [hexecute]
    use rfl
    intro database results rows hreply hrows
    rw [Exchange.map, Exchange.run, hreply, hfinish results rows hrows]
    rfl
  case whole =>
    rintro rfl hclauses
    cases hrequest
    rw [hclauses, Exchange.calls_map]
    apply calls_execute_all htable hname

theorem conceals_of_fixed
    (catalog : Catalog) (fresh : String) {name : String} (hfixed : name ∈ Route.fixedNames)
    {received : Request} {clauses : Option (List Char)}
    (hpath : received.pathAndQuery = ('/' :: name.toList, clauses)) {method : Method}
    (hmethod : received.method = method.name) (htables : method ∈ Method.aboutTables) :
  Conceals catalog name method (received.id fresh) (respond catalog fresh received)
  := by
  rw [Route.fixedNames, List.mem_pair] at hfixed
  rcases hfixed with rfl | rfl
  · have hroute : Route.ofPath? ('/' :: "health".toList) = some .health := rfl
    constructor
    case health =>
      rintro rfl -
      rw [respond_of_route catalog fresh hpath hmethod htables hroute]
      rfl
    case tables =>
      intro _ h
      simp at h
    case refused => apply refused_of_route catalog fresh hpath hmethod htables hroute rfl
  · have hroute : Route.ofPath? ('/' :: "tables".toList) = some .tables := rfl
    constructor
    case health =>
      intro _ h
      simp at h
    case tables =>
      rintro rfl -
      rw [respond_of_route catalog fresh hpath hmethod htables hroute]
      rfl
    case refused => apply refused_of_route catalog fresh hpath hmethod htables hroute rfl

/-- A table that is hidden behind a fixed path is not exposed. -/
theorem Conceals.not_exposes
    {clauses : Option String} {body : List UInt8} {method : Method} {task : Exchange Response}
    (h : Conceals catalog name method requestId task) (hfixed : name ∈ Route.fixedNames) :
  ¬ Exposes catalog name method clauses body requestId task
  := by
  intro hexposes
  by_cases hget : method = .get
  · rw [Route.fixedNames, List.mem_pair] at hfixed
    rcases hfixed with hname | hname
    · rw [h.health hget hname] at hexposes
      apply (hexposes.apart fun _ => none).1 rfl
    · rw [h.tables hget hname] at hexposes
      apply (hexposes.apart fun _ => none).2 rfl
  · obtain ⟨response, rfl, hstatus⟩ := h.refused hget
    apply hexposes.allowed (fun _ => none) hstatus

/-- A table of the catalog whose name is an identifier is exposed at the path of its name,
with every method, every text after the question mark and every body that is taken, exactly if
the name is not that of a fixed path. If it is one, the table is hidden behind that path. -/
theorem tables_exposed
    (catalog : Catalog) (fresh : String) {table : Table} (htable : table ∈ catalog.tables)
    (hname : IsName table.name) {received : Request} {clauses : Option (List Char)}
    (hpath : received.pathAndQuery = ('/' :: table.name.toList, clauses)) {method : Method}
    (hmethod : received.method = method.name) (htables : method ∈ Method.aboutTables) :
  (Exposes catalog table.name method (clauses.map String.ofList) received.body (received.id fresh)
      (respond catalog fresh received)
    ↔ table.name ∉ Route.fixedNames)
    ∧ (table.name ∈ Route.fixedNames →
      Conceals catalog table.name method (received.id fresh) (respond catalog fresh received))
  := by
  have hconceals : table.name ∈ Route.fixedNames →
      Conceals catalog table.name method (received.id fresh) (respond catalog fresh received) := by
    intro hfixed
    apply conceals_of_fixed catalog fresh hfixed hpath hmethod htables
  refine ⟨⟨?_, ?_⟩, hconceals⟩
  · intro hexposes hfixed
    apply (hconceals hfixed).not_exposes hfixed hexposes
  · intro hfixed
    apply exposes_of_isName catalog fresh htable hname hfixed hpath hmethod htables

/-- A request for a book of the library. -/
def bookRequest : Request :=
  ⟨"GET", "/books?limit=1", [("x-request-id", "r")], []⟩

/-- A catalog with a table that has the name of a fixed path. -/
def clinic : Catalog :=
  .ofTables [.ofColumns "health" [⟨"id", .int⟩, ⟨"state", .string⟩]]

/-- A request for the rows of that table. -/
def healthRequest : Request :=
  ⟨"GET", "/health", [("x-request-id", "r")], []⟩

/-- A request to insert a row into that table. -/
def healthInsertion : Request :=
  ⟨"POST", "/health", [("x-request-id", "r")], Text.utf8Octets "\x7b\"state\":\"well\"\x7d".toList⟩

/-- The books are exposed, and the table of the other catalog is hidden. -/
theorem tables_exposed_library :
  Exposes library "books" .get (some "limit=1") [] "r" (respond library "u" bookRequest)
    ∧ Conceals clinic "health" .get "r" (respond clinic "u" healthRequest)
  := by
  have hbooks : Table.ofColumns "books"
      [⟨"id", .int⟩, ⟨"title", .string⟩, ⟨"author", .int⟩, ⟨"year", .int⟩] ∈ library.tables :=
    List.mem_of_getElem? (i := 1) rfl
  have hhealth : Table.ofColumns "health" [⟨"id", .int⟩, ⟨"state", .string⟩] ∈ clinic.tables :=
    List.mem_of_getElem? (i := 0) rfl
  have hmethod : "GET" = Method.get.name := rfl
  have hget : Method.get ∈ Method.aboutTables := by decide
  constructor
  · have hpath : bookRequest.pathAndQuery = ('/' :: "books".toList, some "limit=1".toList) := by
      decide +kernel
    apply (tables_exposed library "u" hbooks (by decide) hpath hmethod hget).1.mpr
    decide
  · have hpath : healthRequest.pathAndQuery = ('/' :: "health".toList, none) := by decide +kernel
    apply (tables_exposed clinic "u" hhealth (by decide) hpath hmethod hget).2
    decide

/-- The rows of the table can be planned for, but the database is not asked for them, and no
row can be inserted. -/
theorem table_hidden_by_route :
  (∃ table ∈ clinic.tables, table.name = "health")
    ∧ IsName "health"
    ∧ (Plan.select clinic "health" none).map Statement.sql = .ok "SELECT * FROM health"
    ∧ healthRequest.pathAndQuery = ('/' :: "health".toList, none)
    ∧ (respond clinic "u" healthRequest).calls = []
    ∧ ((respond clinic "u" healthRequest).run fun _ => none).sentBody = "\x7b\"status\":\"ok\"\x7d"
    ∧ ¬ Exposes clinic "health" .get none [] "r" (respond clinic "u" healthRequest)
    ∧ ((respond clinic "u" healthInsertion).run fun _ => none).status = 405
  := by
  have hanswer : respond clinic "u" healthRequest = .done (answer "r" 200 healthBody) := rfl
  have hrefusal : respond clinic "u" healthInsertion = .done (notAllowed "r" .health) := rfl
  rw [hanswer, hrefusal]
  constructor
  · decide +kernel
  constructor
  · decide
  constructor
  · decide +kernel
  constructor
  · decide +kernel
  use rfl
  constructor
  · decide +kernel
  constructor
  · intro h
    apply (h.apart fun _ => none).1 rfl
  · rfl

end Http

end TableGateway
