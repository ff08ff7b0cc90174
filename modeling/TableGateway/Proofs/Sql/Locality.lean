import TableGateway.Proofs.Catalog.Lookup
import TableGateway.Proofs.Query.Invariant
import TableGateway.Proofs.Sql.Building
import TableGateway.Service.TableRequest

/-!
# The tables that a request depends on

A query names tables: the one it is about, those that it joins, and those that its columns
are qualified by. All that the catalog is asked for in building a statement is the
definitions of these tables. So catalogs that agree on them, where a missing table agrees
with a missing table, lead to the same statement or to the same error, whatever other
tables they have and however these are defined.

Each function that looks a name up is taken in turn, and the names that it looks up are
shown to be among those of the query.
-/

namespace TableGateway

/-! ### Catalogs that agree -/

/-- Two catalogs have the same definitions of the given tables, and miss the same of
them. -/
def Catalog.AgreesOn (catalog : Catalog) (names : List String) (other : Catalog) : Prop :=
  ∀ name ∈ names, catalog.table? name = other.table? name

namespace Catalog.AgreesOn

variable {catalog other : Catalog} {names : List String} (h : catalog.AgreesOn names other)

include h

/-- A table that both catalogs agree on is found in both or in neither. -/
theorem requireTable_eq {name : String} (hname : name ∈ names) :
  catalog.requireTable name = other.requireTable name
  := by
  rw [requireTable, requireTable, h name hname]

/-- The columns of a table that both catalogs agree on are the same. -/
theorem column?_eq {table : String} (htable : table ∈ names) (name : String) :
  catalog.column? table name = other.column? table name
  := by
  rw [column?, column?, h table htable]

end Catalog.AgreesOn

/-- Catalogs agree on tables of which the same definitions are listed in the same order. -/
theorem Catalog.agreesOn_ofTables
    {names : List String} {tables others : List Table}
    (h : ∀ name ∈ names, tables.filter (·.name = name) = others.filter (·.name = name)) :
  (ofTables tables).AgreesOn names (ofTables others)
  := by
  intro name hname
  rw [table?_ofTables, table?_ofTables, h name hname]

/-! ### The tables that are named -/

namespace Query

/-- The columns that a query refers to. -/
def references (query : Query) : List ColumnRef :=
  query.columns ++ query.deciding

/-- The tables that a query names: the one it is about, those it joins, and those that its
columns are qualified by. -/
def mentionedTables (query : Query) : List String :=
  query.namedTables ++ query.references.flatMap fun column => column.qualifier.toList

variable {query : Query}

theorem table_mem_mentionedTables :
  query.table ∈ query.mentionedTables
  := by
  simp [mentionedTables, namedTables]

theorem join_mem_mentionedTables {join : Join} (hjoin : join ∈ query.joins) :
  join.table ∈ query.mentionedTables
  := by
  apply List.mem_append_left
  apply List.mem_cons_of_mem
  apply List.mem_map_of_mem hjoin

/-- The qualifier of a column that is referred to is a mentioned table. -/
theorem qualifier_mem_mentionedTables
    {column : ColumnRef} (hcolumn : column ∈ query.references) {qualifier : String}
    (hqualifier : column.qualifier = some qualifier) :
  qualifier ∈ query.mentionedTables
  := by
  apply List.mem_append_right
  apply List.mem_flatMap.mpr
  use column, hcolumn
  simp [hqualifier]

/-- The tables of a query are all mentioned in it. -/
theorem WellFormed.tables_subset_mentionedTables (hquery : query.WellFormed) :
  query.tables ⊆ query.mentionedTables
  := by
  intro table htable
  rw [hquery.tables, List.mem_eraseDups] at htable
  apply List.mem_append_left _ htable

/-- The first column of a join is referred to. -/
theorem left_mem_references {join : Join} (hjoin : join ∈ query.joins) :
  join.left ∈ query.references
  := by
  apply List.mem_append_right
  apply List.mem_append_right
  apply List.mem_flatMap.mpr
  use join, hjoin
  simp

theorem right_mem_references {join : Join} (hjoin : join ∈ query.joins) :
  join.right ∈ query.references
  := by
  apply List.mem_append_right
  apply List.mem_append_right
  apply List.mem_flatMap.mpr
  use join, hjoin
  simp

/-- The column of a condition is referred to. -/
theorem column_mem_references {condition : Condition} (h : condition ∈ query.conditions) :
  condition.column ∈ query.references
  := by
  apply List.mem_append_right
  apply List.mem_append_left
  apply List.mem_map_of_mem h

end Query

/-! ### Names in scope -/

namespace Query.WellFormed

variable {query : Query} (hquery : query.WellFormed) {catalog other : Catalog}
  (h : catalog.AgreesOn query.mentionedTables other)

include hquery h

/-- The columns that an unqualified name may stand for are the same in both catalogs. -/
theorem candidates_local (name : String) :
  query.candidates catalog name = query.candidates other name
  := by
  apply List.filterMap_congr
  intro table htable
  apply h.column?_eq (hquery.tables_subset_mentionedTables htable)

/-- An unqualified name stands for the same column, or fails with the same error. -/
theorem resolveName_local (name : String) :
  query.resolveName catalog name = query.resolveName other name
  := by
  rw [resolveName, resolveName, h.requireTable_eq table_mem_mentionedTables,
    hquery.candidates_local h]

/-- A column that is referred to stands for the same column, or fails with the same error. -/
theorem resolve_local {column : ColumnRef} (hcolumn : column ∈ query.references) :
  query.resolve catalog column = query.resolve other column
  := by
  rw [resolve, resolve]
  cases hqualifier : column.qualifier with
  | none => apply hquery.resolveName_local h
  | some qualifier =>
      have hmem := qualifier_mem_mentionedTables hcolumn hqualifier
      simp only [resolveQualified, h.requireTable_eq hmem]

/-- Joins are accepted in both catalogs or fail with the same error. -/
theorem checkJoins_local {joins : List Join} (hjoins : joins ⊆ query.joins) (scope : List String) :
  query.checkJoins catalog scope joins = query.checkJoins other scope joins
  := by
  induction joins generalizing scope with
  | nil => rfl
  | cons join rest ih =>
      rw [List.cons_subset] at hjoins
      obtain ⟨hjoin, hrest⟩ := hjoins
      rw [checkJoins, checkJoins, h.requireTable_eq (join_mem_mentionedTables hjoin),
        hquery.resolve_local h (left_mem_references hjoin),
        hquery.resolve_local h (right_mem_references hjoin), ih hrest]

/-- Selected columns are accepted in both catalogs or fail with the same error. -/
theorem checkColumns_local {columns : List ColumnRef} (hcolumns : columns ⊆ query.columns) :
  query.checkColumns catalog columns = query.checkColumns other columns
  := by
  induction columns with
  | nil => rfl
  | cons column rest ih =>
      rw [List.cons_subset] at hcolumns
      obtain ⟨hcolumn, hrest⟩ := hcolumns
      rw [checkColumns, checkColumns,
        hquery.resolve_local h (List.mem_append_left _ hcolumn), ih hrest]

/-- Conditions have the same arguments or fail with the same error. -/
theorem filterArguments_local
    {conditions : List Condition} (hconditions : conditions ⊆ query.conditions) :
  Statement.filterArguments catalog query conditions
    = Statement.filterArguments other query conditions
  := by
  induction conditions with
  | nil => rfl
  | cons condition rest ih =>
      rw [List.cons_subset] at hconditions
      obtain ⟨hcondition, hrest⟩ := hconditions
      rw [Statement.filterArguments, Statement.filterArguments,
        hquery.resolve_local h (column_mem_references hcondition), ih hrest]

end Query.WellFormed

/-! ### Statements -/

namespace Statement

/-- Two catalogs lead to the same statements and errors for a query, with any record for
the values of a change. -/
structure SameFor (query : Query) (catalog other : Catalog) : Prop where
  select : select catalog query = select other query
  update : ∀ record, update catalog query record = update other query record
  delete : delete catalog query = delete other query

/-- Selections, updates and deletions are the same for catalogs that agree on the mentioned tables.
-/
theorem sameFor_of_agreesOn
    {query : Query} (hquery : query.WellFormed) {catalog other : Catalog}
    (h : catalog.AgreesOn query.mentionedTables other) :
  SameFor query catalog other
  := by
  have htable := h.requireTable_eq Query.table_mem_mentionedTables
  have harguments := hquery.filterArguments_local h (List.Subset.refl query.conditions)
  constructor
  · rw [Statement.select_eq, Statement.select_eq, htable,
      hquery.checkJoins_local h (List.Subset.refl query.joins),
      hquery.checkColumns_local h (List.Subset.refl query.columns), harguments]
  · intro record
    rw [Statement.update_eq, Statement.update_eq, htable, harguments]
  · rw [Statement.delete_eq, Statement.delete_eq, htable, harguments]

/-- An insertion asks the catalog for its one table. -/
theorem insert_local
    {table : String} {catalog other : Catalog} (h : catalog.AgreesOn [table] other)
    (records : List Record) :
  insert catalog table records = insert other table records
  := by
  rw [insert, insert, h.requireTable_eq (List.mem_singleton_self table)]

end Statement

/-! ### Requests -/

namespace TableRequest

open Outcome Statement

/-- The tables that a request about a table names. An insertion names just the one that it
is into. -/
def mentionedTables (segment : String) : TableRequest → List String
  | insert _ => (Plan.query segment none).toOption.elim [] fun query => [query.table]
  | select clauses | update clauses _ | delete clauses =>
    (Plan.query segment clauses).toOption.elim [] Query.mentionedTables

variable {catalog other : Catalog} {segment : String}

theorem sameFor_of_query
    {clauses : Option String} {query : Query} (hquery : Plan.query segment clauses = .ok query)
    (h : catalog.AgreesOn
      ((Plan.query segment clauses).toOption.elim [] Query.mentionedTables) other) :
  SameFor query catalog other
  := by
  rw [hquery] at h
  apply sameFor_of_agreesOn (Query.wellFormed_of_parsePath hquery) h

/-- A request has the same plan for catalogs that agree on the tables that it mentions. -/
theorem plan_local
    {request : TableRequest} (h : catalog.AgreesOn (request.mentionedTables segment) other) :
  request.plan catalog segment = request.plan other segment
  := by
  cases request with
  | select clauses =>
      rw [plan, plan, Plan.select, Plan.select]
      apply congrArg (Except.mapError _)
      apply bind_congr_of_ok
      intro query hquery
      apply (sameFor_of_query hquery h).select
  | insert body =>
      rw [plan, plan]
      apply bind_congr
      intro value
      rw [Plan.insert, Plan.insert]
      apply congrArg (Except.mapError _)
      apply bind_congr_of_ok
      intro query hquery
      rw [mentionedTables, hquery] at h
      apply bind_congr
      intro records
      apply insert_local h
  | update clauses body =>
      rw [plan, plan]
      apply bind_congr
      intro value
      rw [Plan.update, Plan.update]
      apply congrArg (Except.mapError _)
      apply bind_congr_of_ok
      intro query hquery
      apply bind_congr
      intro record
      apply (sameFor_of_query hquery h).update
  | delete clauses =>
      rw [plan, plan, Plan.delete, Plan.delete]
      apply congrArg (Except.mapError _)
      apply bind_congr_of_ok
      intro query hquery
      apply (sameFor_of_query hquery h).delete

/-- A request is executed alike for catalogs that agree on the tables that it mentions. -/
theorem execute_local
    {request : TableRequest} (h : catalog.AgreesOn (request.mentionedTables segment) other) :
  request.execute catalog segment = request.execute other segment
  := by
  rw [execute, execute, plan_local h]

end TableRequest

namespace Statement

/-- Statements depend on the tables that are named, and on nothing else in the catalog. Two
catalogs that agree on the tables that a parsed query names lead to the same statement or
the same error for each kind of statement, and for an insertion they need to agree on its
table; so a request about a table has the same effect with both. Catalogs agree on the
tables that are defined alike in the lists that they are made of, whatever else is listed,
and the order of tables of different names in these lists is of no importance. -/
theorem statements_local (catalog other : Catalog) :
  (∀ operators path query, Query.parsePath operators path = .ok query →
      catalog.AgreesOn query.mentionedTables other → SameFor query catalog other)
    ∧ (∀ table, catalog.table? table = other.table? table → ∀ records,
      insert catalog table records = insert other table records)
    ∧ (∀ segment (request : TableRequest),
      catalog.AgreesOn (request.mentionedTables segment) other →
        request.execute catalog segment = request.execute other segment)
    ∧ (∀ (names : List String) (tables others : List Table),
      (∀ name ∈ names, tables.filter (·.name = name) = others.filter (·.name = name)) →
        (Catalog.ofTables tables).AgreesOn names (.ofTables others))
    ∧ ∀ tables others : List Table, tables.Perm others → (tables.map Table.name).Nodup →
      Catalog.ofTables tables = .ofTables others
  := by
  refine ⟨?_, ?_, ?_, ?_, ?_⟩
  · intro operators path query hquery h
    apply sameFor_of_agreesOn (Query.wellFormed_of_parsePath hquery) h
  · intro table htable records
    apply insert_local
    rw [Catalog.AgreesOn, List.forall_mem_singleton]
    apply htable
  · intro segment request h
    apply TableRequest.execute_local h
  · intro names tables others h
    apply Catalog.agreesOn_ofTables h
  · intro tables others hperm hnodup
    apply Catalog.ofTables_eq_of_perm hperm hnodup

/-- The library without its authors and with other tables, listed in another order. -/
def annex : Catalog :=
  .ofTables [
    .ofColumns "maps" [⟨"id", .uuid⟩, ⟨"year", .int⟩],
    .ofColumns "books" [⟨"id", .int⟩, ⟨"title", .string⟩, ⟨"author", .int⟩, ⟨"year", .int⟩],
    .ofColumns "atlases" [⟨"title", .string⟩]]

theorem statements_local_library :
  Query.parsePath .standard libraryPath = .ok libraryQuery
    ∧ library.AgreesOn libraryQuery.mentionedTables annex
    ∧ library.table? "authors" ≠ annex.table? "authors"
    ∧ select annex libraryQuery = select library libraryQuery
    ∧ update annex libraryQuery libraryRecord = update library libraryQuery libraryRecord
    ∧ insert annex "books" [libraryRecord] = insert library "books" [libraryRecord]
    ∧ (TableRequest.delete (some "where=id==1")).execute annex "books"
      = (TableRequest.delete (some "where=id==1")).execute library "books"
  := by
  have hbooks : library.table? "books" = annex.table? "books" := rfl
  have hquery : library.AgreesOn libraryQuery.mentionedTables annex := by
    have hnames : libraryQuery.mentionedTables = ["books", "books"] := rfl
    simp [Catalog.AgreesOn, hnames, hbooks]
  have hrequest : library.AgreesOn
      ((TableRequest.delete (some "where=id==1")).mentionedTables "books") annex := by
    have hnames : (TableRequest.delete (some "where=id==1")).mentionedTables "books" = ["books"] :=
      rfl
    simp [Catalog.AgreesOn, hnames, hbooks]
  obtain ⟨hlocal, hinsert, hexecute, -, -⟩ := statements_local library annex
  have hsame := hlocal _ _ _ parsePath_libraryPath hquery
  refine ⟨parsePath_libraryPath, hquery, ?_, hsame.select.symm, ?_, ?_, ?_⟩
  · intro h
    cases h
  · symm
    apply hsame.update
  · symm
    apply hinsert "books" hbooks
  · symm
    apply hexecute "books" _ hrequest

end Statement

end TableGateway
