import TableGateway.Proofs.Catalog.Lookup
import TableGateway.Proofs.Query.Resolution
import TableGateway.Proofs.Sql.Reading

/-!
# Changes under conditions

Rows are only changed or deleted under conditions. A query without conditions is refused
for that reason and for no other, whatever else may be wrong with it, and no other query
is refused for it. A change is made exactly when the query has conditions and no joins,
its table is in the catalog, and every name is a column of that table. The text of the
statement then has one predicate for each condition of the query.
-/

namespace TableGateway

open Outcome

/-! ### Errors about names -/

/-- An error about a name that is not found, or that is found more than once. -/
def RequestError.IsLookup : RequestError → Prop
  | tableNotFound _ | columnNotFound _ _ | unjoinedTable _ | ambiguousColumn _ => True
  | _ => False

/-- A table that is not found is an error of lookup. -/
theorem Catalog.isLookup_of_requireTable
    {catalog : Catalog} {name : String} {error : RequestError}
    (h : catalog.requireTable name = .error error) :
  error.IsLookup
  := by
  rw [requireTable] at h
  cases htable : catalog.table? name with
  | none =>
      rw [htable] at h
      cases h
      trivial
  | some table =>
      rw [htable] at h
      cases h

theorem Table.isLookup_of_requireColumn
    {table : Table} {name : String} {error : RequestError}
    (h : table.requireColumn name = .error error) :
  error.IsLookup
  := by
  rw [requireColumn] at h
  cases hcolumn : table.column? name with
  | none =>
      rw [hcolumn] at h
      cases h
      trivial
  | some column =>
      rw [hcolumn] at h
      cases h

/-- A reference is looked up with an error only if a name is not found. -/
theorem Query.isLookup_of_resolve
    {query : Query} {catalog : Catalog} {reference : ColumnRef} {error : RequestError}
    (h : query.resolve catalog reference = .error error) :
  error.IsLookup
  := by
  rw [resolve] at h
  cases hqualifier : reference.qualifier with
  | some qualifier =>
      simp only [hqualifier, resolveQualified, bind_eq_error_iff] at h
      rcases h with htable | ⟨table, -, h⟩
      · apply Catalog.isLookup_of_requireTable htable
      · split at h
        · apply Table.isLookup_of_requireColumn h
        · cases h
          trivial
  | none =>
      simp only [hqualifier, resolveName, bind_eq_error_iff] at h
      rcases h with htable | ⟨table, -, h⟩
      · apply Catalog.isLookup_of_requireTable htable
      · split at h
        · cases h
        · cases h
          trivial
        · cases h
          trivial

namespace Statement

open Sql

/-- Conditions fail only with errors of lookup. -/
theorem isLookup_of_filterArguments
    {catalog : Catalog} {query : Query} {conditions : List Condition} {error : RequestError}
    (h : filterArguments catalog query conditions = .error error) :
  error.IsLookup
  := by
  induction conditions with
  | nil => cases h
  | cons condition rest ih =>
      simp only [filterArguments, bind_eq_error_iff] at h
      rcases h with hcolumn | ⟨column, -, hrest | ⟨arguments, -, h⟩⟩
      · apply Query.isLookup_of_resolve hcolumn
      · apply ih hrest
      · cases h

/-- The columns of a record are found with an error only if it is empty or a name is not
found. -/
theorem isLookup_of_recordColumns
    {table : Table} {record : Record} {change : Change} {error : RequestError}
    (h : recordColumns table record change = .error error) :
  error = .emptyPayload change ∨ error.IsLookup
  := by
  rw [recordColumns] at h
  split at h
  · left
    cases h
    rfl
  · right
    obtain ⟨name, -, hname⟩ := exists_mem_of_mapM_eq_error h
    apply Table.isLookup_of_requireColumn hname

/-! ### The guard -/

/-- A change is refused for its missing conditions exactly if it has none. -/
theorem checkChange_eq_error_noConditions_iff {query : Query} {change : Change} :
  checkChange query change = .error .noConditions ↔ query.conditions = []
  := by
  rw [checkChange]
  cases query.conditions <;> cases query.joins <;> simp

/-- A deletion is refused for want of conditions exactly when the query has none. -/
theorem delete_eq_error_noConditions_iff {catalog : Catalog} {query : Query} :
  delete catalog query = .error .noConditions ↔ query.conditions = []
  := by
  simp only [delete_eq, bind_eq_error_iff, checkChange_eq_error_noConditions_iff]
  constructor
  · rintro (h | ⟨_, -, htable | ⟨table, -, harguments | ⟨arguments, -, h⟩⟩⟩)
    · apply h
    · cases Catalog.isLookup_of_requireTable htable
    · cases isLookup_of_filterArguments harguments
    · cases h
  · intro h
    left
    apply h

/-- A change is refused for want of conditions exactly when the query has none. -/
theorem update_eq_error_noConditions_iff
    {catalog : Catalog} {query : Query} {record : Record} :
  update catalog query record = .error .noConditions ↔ query.conditions = []
  := by
  simp only [update_eq, bind_eq_error_iff, checkChange_eq_error_noConditions_iff]
  constructor
  · rintro (h | ⟨_, -, htable | ⟨table, -, hcolumns | ⟨columns, -, harguments |
      ⟨arguments, -, h⟩⟩⟩⟩)
    · apply h
    · cases Catalog.isLookup_of_requireTable htable
    · rcases isLookup_of_recordColumns hcolumns with h | h
      · cases h
      · cases h
    · cases isLookup_of_filterArguments harguments
    · cases h
  · intro h
    left
    apply h

/-! ### Acceptance -/

theorem hasColumn_iff {catalog : Catalog} {table name : String} :
  catalog.hasColumn table name = true ↔ ∃ column, catalog.column? table name = some column
  := by
  rw [← Catalog.isSome_column?, Option.isSome_iff_exists]

/-- A query that has just its primary table may refer to the columns of that table, with
its name or without a qualifier. -/
theorem exists_means_iff
    {query : Query} {catalog : Catalog} (htables : query.tables = [query.table])
    {reference : ColumnRef} :
  (∃ column, query.Means catalog reference column)
    ↔ (reference.qualifier = none ∨ reference.qualifier = some query.table)
      ∧ catalog.hasColumn query.table reference.name = true
  := by
  rw [hasColumn_iff]
  cases hqualifier : reference.qualifier with
  | some qualifier =>
      simp only [Query.Means, hqualifier, htables, List.mem_singleton, exists_and_left,
        reduceCtorEq, Option.some.injEq, false_or]
      apply and_congr_right
      rintro rfl
      rfl
  | none => simp [Query.Means, hqualifier, htables]

/-- A query whose rows may be changed. It has conditions and no joins, and the columns of
its conditions are columns of its table, without a qualifier or qualified by that table. -/
structure IsChangeable (catalog : Catalog) (query : Query) : Prop where
  conditions : query.conditions ≠ []
  joins : query.joins = []
  table : catalog.hasTable query.table = true
  columns : ∀ condition ∈ query.conditions,
    (condition.column.qualifier = none ∨ condition.column.qualifier = some query.table)
      ∧ catalog.hasColumn query.table condition.column.name = true

/-- The columns of the conditions are found exactly when the query's own table has them. -/
theorem exists_compares_iff
    {query : Query} {catalog : Catalog} (hquery : query.WellFormed) (hjoins : query.joins = [])
    (htable : ∃ table, catalog.table? query.table = some table) :
  (∃ columns, Compares catalog query query.conditions columns)
    ↔ ∀ condition ∈ query.conditions,
      (condition.column.qualifier = none ∨ condition.column.qualifier = some query.table)
        ∧ catalog.hasColumn query.table condition.column.name = true
  := by
  have htables := hquery.tables_of_joins_eq_nil hjoins
  simp only [Compares, exists_forall₂_iff, Query.resolve_eq_ok_iff hquery htable,
    exists_means_iff htables]

/-- Names are all found exactly if the catalog has a column for each. -/
theorem exists_hasColumns_iff
    {catalog : Catalog} {name : String} {table : Table}
    (htable : catalog.table? name = some table) {names : List String} :
  (∃ columns, table.HasColumns names columns)
    ↔ ∀ column ∈ names, catalog.hasColumn name column = true
  := by
  simp only [Table.HasColumns, exists_forall₂_iff, hasColumn_iff, Catalog.column?, htable,
    Option.bind_some]

/-- Rows are deleted exactly when they may be changed. -/
theorem exists_delete_eq_ok_iff
    {catalog : Catalog} {query : Query} (hquery : query.WellFormed) :
  (∃ statement, delete catalog query = .ok statement) ↔ IsChangeable catalog query
  := by
  simp only [delete_eq_ok_iff]
  constructor
  · rintro ⟨_, ⟨hconditions, hjoins⟩, htable, compared, hcompared, -⟩
    constructor
    · apply hconditions
    · apply hjoins
    · apply Catalog.hasTable_iff.mpr htable
    · apply (exists_compares_iff hquery hjoins htable).mp ⟨compared, hcompared⟩
  · intro h
    have htable := Catalog.hasTable_iff.mp h.table
    obtain ⟨compared, hcompared⟩ := (exists_compares_iff hquery h.joins htable).mpr h.columns
    refine ⟨_, ⟨h.conditions, h.joins⟩, htable, compared, hcompared, rfl⟩

/-- Rows are changed exactly when they may be, and the record has values for columns of the
table and for nothing else. -/
theorem exists_update_eq_ok_iff
    {catalog : Catalog} {query : Query} {record : Record} (hquery : query.WellFormed) :
  (∃ statement, update catalog query record = .ok statement)
    ↔ IsChangeable catalog query ∧ record.fields ≠ []
      ∧ ∀ name ∈ record.names, catalog.hasColumn query.table name = true
  := by
  simp only [update_eq_ok_iff]
  constructor
  · rintro ⟨_, ⟨hconditions, hjoins⟩, table, htable, hfields, assigned, hassigned, compared,
      hcompared, -⟩
    constructor
    · constructor
      · apply hconditions
      · apply hjoins
      · apply Catalog.hasTable_iff.mpr ⟨table, htable⟩
      · apply (exists_compares_iff hquery hjoins ⟨table, htable⟩).mp ⟨compared, hcompared⟩
    · use hfields
      apply (exists_hasColumns_iff htable).mp ⟨assigned, hassigned⟩
  · rintro ⟨h, hfields, hnames⟩
    obtain ⟨table, htable⟩ := Catalog.hasTable_iff.mp h.table
    obtain ⟨assigned, hassigned⟩ := (exists_hasColumns_iff htable).mpr hnames
    obtain ⟨compared, hcompared⟩ :=
      (exists_compares_iff hquery h.joins ⟨table, htable⟩).mpr h.columns
    refine ⟨_, ⟨h.conditions, h.joins⟩, table, htable, hfields, assigned, hassigned, compared,
      hcompared, rfl⟩

/-! ### The predicates -/

/-- The text of a condition has one predicate for each of the given conditions, in their
order, and is read as these predicates and nothing else. -/
def Filters (text : String) (conditions : List Condition) : Prop :=
  ∃ predicates : List Predicate,
    List.Forall₂
      (fun condition predicate => predicate.column = condition.column
        ∧ predicate.operator = condition.operator
        ∧ predicate.arguments.length = condition.values.length)
      conditions predicates
    ∧ text = conjunction predicates
    ∧ items? text = some ([Item.conjunction].intercalate (predicates.map Predicate.items))

/-- The text of conditions is read back as one filter for each. -/
theorem filters_conjunction
    {first : Nat} {conditions : List Condition} (hne : conditions ≠ [])
    (h : ∀ condition ∈ conditions, condition.IsPlain) :
  Filters (conjunction (predicates first conditions)) conditions
  := by
  use predicates first conditions, forall₂_predicates first conditions, rfl
  apply items?_conjunction (predicates_ne_nil hne) (isPlain_predicates h)

/-- The text of a deletion has the filter of all its conditions. -/
theorem sql_delete
    {catalog : Catalog} {query : Query} {statement : Statement} (hquery : query.WellFormed)
    (h : delete catalog query = .ok statement) :
  ∃ condition, Filters condition query.conditions
    ∧ statement.sql = "DELETE FROM " ++ query.table ++ " WHERE " ++ condition ++ " RETURNING id"
  := by
  obtain ⟨⟨hconditions, -⟩, -, compared, -, rfl⟩ := delete_eq_ok_iff.mp h
  use conjunction (predicates 1 query.conditions)
  constructor
  · apply filters_conjunction hconditions hquery.conditions
  · rw [sql, Command.text_delete, whereText_predicates hconditions, ← String.append_assoc]

/-- The text of an update has the filter of all its conditions. -/
theorem sql_update
    {catalog : Catalog} {query : Query} {record : Record} {statement : Statement}
    (hquery : query.WellFormed) (h : update catalog query record = .ok statement) :
  ∃ (assignments : List (String × Nat)) (condition : String),
    assignments.map Prod.fst = record.names
    ∧ Filters condition query.conditions
    ∧ statement.sql = "UPDATE " ++ query.table ++ " SET "
      ++ ", ".intercalate (assignments.map assignmentText) ++ " WHERE " ++ condition
      ++ " RETURNING id"
  := by
  obtain ⟨⟨hconditions, -⟩, table, -, -, assigned, -, compared, -, rfl⟩ := update_eq_ok_iff.mp h
  use record.names.zip (List.range' 1 record.size),
    conjunction (predicates (record.size + 1) query.conditions)
  constructor
  · apply Record.map_fst_zip_range'
  constructor
  · apply filters_conjunction hconditions hquery.conditions
  · rw [sql, Command.text_update, whereText_predicates hconditions, ← String.append_assoc]

/-- A change or a deletion is refused for want of conditions exactly when the query has
none. It is accepted exactly when the query is changeable and the record, for a change, has
values for columns of the table and for nothing else. Its text then has one predicate for
each condition. -/
theorem changes_guarded
    {operators : OperatorTable} {path : String} {query : Query} (catalog : Catalog)
    (hquery : Query.parsePath operators path = .ok query) :
  (delete catalog query = .error .noConditions ↔ query.conditions = [])
    ∧ (∀ record, update catalog query record = .error .noConditions ↔ query.conditions = [])
    ∧ ((∃ statement, delete catalog query = .ok statement) ↔ IsChangeable catalog query)
    ∧ (∀ record, (∃ statement, update catalog query record = .ok statement)
      ↔ IsChangeable catalog query ∧ record.fields ≠ []
        ∧ ∀ name ∈ record.names, catalog.hasColumn query.table name = true)
    ∧ (∀ statement, delete catalog query = .ok statement →
      ∃ condition, Filters condition query.conditions ∧ statement.sql
        = "DELETE FROM " ++ query.table ++ " WHERE " ++ condition ++ " RETURNING id")
    ∧ ∀ (record : Record) (statement : Statement),
      update catalog query record = .ok statement →
      ∃ (assignments : List (String × Nat)) (condition : String),
        assignments.map Prod.fst = record.names
        ∧ Filters condition query.conditions ∧ statement.sql
          = "UPDATE " ++ query.table ++ " SET "
            ++ ", ".intercalate (assignments.map assignmentText) ++ " WHERE " ++ condition
            ++ " RETURNING id"
  := by
  have hwellFormed := Query.wellFormed_of_parsePath hquery
  constructor
  · apply delete_eq_error_noConditions_iff
  constructor
  · intro record
    apply update_eq_error_noConditions_iff
  constructor
  · apply exists_delete_eq_ok_iff hwellFormed
  constructor
  · intro record
    apply exists_update_eq_ok_iff hwellFormed
  constructor
  · intro statement h
    apply sql_delete hwellFormed h
  · intro record statement h
    apply sql_update hwellFormed h

theorem changes_guarded_library :
  Query.parsePath .standard libraryPath = .ok libraryQuery
    ∧ delete library libraryQuery ≠ .error .noConditions
    ∧ IsChangeable library libraryQuery
    ∧ ∃ statement, update library libraryQuery libraryRecord = .ok statement
      ∧ ∃ (assignments : List (String × Nat)) (condition : String),
        assignments.map Prod.fst = ["title", "year"]
        ∧ Filters condition libraryQuery.conditions ∧ statement.sql
          = "UPDATE " ++ "books" ++ " SET "
            ++ ", ".intercalate (assignments.map assignmentText) ++ " WHERE " ++ condition
            ++ " RETURNING id"
  := by
  obtain ⟨hrefused, -, haccepted, hchanged, -, htext⟩ :=
    changes_guarded library parsePath_libraryPath
  have hchangeable := haccepted.mp ⟨_, rfl⟩
  use parsePath_libraryPath
  constructor
  · intro h
    cases hrefused.mp h
  constructor
  · apply hchangeable
  · have hfields : libraryRecord.fields ≠ []
        ∧ ∀ name ∈ libraryRecord.names, library.hasColumn libraryQuery.table name = true := by
      decide
    obtain ⟨statement, hstatement⟩ := (hchanged libraryRecord).mpr ⟨hchangeable, hfields⟩
    use statement, hstatement
    apply htext libraryRecord statement hstatement

end Statement

end TableGateway
