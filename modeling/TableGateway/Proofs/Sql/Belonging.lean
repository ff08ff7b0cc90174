import TableGateway.Proofs.Sql.Mention

/-!
# The columns of a changed table

Rows are inserted, changed and deleted in one table, and the columns that a statement takes
from its query and its records are columns of that table: a condition on any other column,
or a record with one, is refused. The column `id`, which every such statement returns, is not
looked up. So all columns in the text are columns of the table exactly when it has an `id`.
-/

namespace TableGateway

open Outcome Sql

/-- A column of a table of the catalog, without a qualifier or qualified by that table. -/
def Catalog.Owns (catalog : Catalog) (table : String) (qualifier : Option String) (name : String) :
    Prop :=
  (qualifier = none ∨ qualifier = some table) ∧ catalog.hasColumn table name = true

namespace Sql

/-- The name of the column that a mention is about. -/
def Mention.columnName? : Mention → Option String
  | .column _ name => some name
  | .returned name => some name
  | .table _ | .label _ => none

/-- The names of the columns in the text of a command, in order. -/
def Command.columnNames (command : Command) : List String :=
  command.mentions.filterMap Mention.columnName?

/-- A mention of a column that a table of the catalog has. -/
def Mention.IsOwned (catalog : Catalog) (table : String) (mention : Mention) : Prop :=
  ∃ reference, mention = columnMention reference
    ∧ catalog.Owns table reference.qualifier reference.name

/-- A column that has been found for a query about one table is a column of that table. -/
theorem Mention.isOwned_of_known
    {catalog : Catalog} {query : Query} (hquery : query.WellFormed)
    (htables : query.tables = [query.table])
    (htable : ∃ table, catalog.table? query.table = some table)
    {reference : ColumnRef} (h : (columnMention reference).Known catalog query) :
  (columnMention reference).IsOwned catalog query.table
  := by
  have hresolve := exists_resolve_of_known h
  simp only [Query.resolve_eq_ok_iff hquery htable, Statement.exists_means_iff htables] at hresolve
  use reference, rfl, hresolve.1, hresolve.2

end Sql

namespace Statement

variable {catalog : Catalog} {query : Query} {statement : Statement}

/-! ### Statements that belong to a table -/

/-- A statement about one table. Its text mentions that table, then columns that the table
has, and then the column `id` that it returns, so that all columns in the text are columns of
the table exactly when it has an `id`. -/
structure BelongsTo (catalog : Catalog) (table : String) (statement : Statement) : Prop
    extends statement.IsAccounted where
  mentions : ∃ columns, statement.command.mentions = [.table table] ++ columns ++ [.returned "id"]
    ∧ ∀ mention ∈ columns, mention.IsOwned catalog table
  columns : (∀ name ∈ statement.command.columnNames, catalog.hasColumn table name = true)
    ↔ catalog.hasColumn table "id" = true

theorem columnNames_of_mentions
    {table : String} {columns : List Mention}
    (h : statement.command.mentions = [.table table] ++ columns ++ [.returned "id"]) :
  statement.command.columnNames = columns.filterMap Mention.columnName? ++ ["id"]
  := by
  rw [Command.columnNames, h, List.filterMap_append, List.filterMap_append]
  rfl

/-- A statement belongs to the table of a query about that table alone, if its columns have
been found for that query. -/
theorem belongsTo_of_known
    (hquery : query.WellFormed) (htables : query.tables = [query.table])
    (htable : ∃ table, catalog.table? query.table = some table)
    {columns : List Mention}
    (hmentions : statement.command.mentions
      = [.table query.table] ++ columns ++ [.returned "id"])
    (hcolumns : ∀ mention ∈ columns, ∃ reference, mention = columnMention reference)
    (hknown : ∀ mention ∈ statement.command.mentions, mention.Known catalog query) :
  BelongsTo catalog query.table statement
  := by
  have howned : ∀ mention ∈ columns, mention.IsOwned catalog query.table := by
    rw [hmentions, List.forall_mem_append, List.forall_mem_append] at hknown
    intro mention hmention
    obtain ⟨reference, rfl⟩ := hcolumns mention hmention
    apply Mention.isOwned_of_known hquery htables htable (hknown.1.2 _ hmention)
  constructor
  · apply isAccounted
  · use columns
  · have hnames : ∀ name ∈ columns.filterMap Mention.columnName?,
        catalog.hasColumn query.table name = true := by
      intro name hname
      obtain ⟨mention, hmention, hcolumn⟩ := List.mem_filterMap.mp hname
      obtain ⟨reference, rfl, howns⟩ := howned mention hmention
      cases hcolumn
      apply howns.2
    rw [columnNames_of_mentions hmentions, List.forall_mem_append, List.forall_mem_singleton,
      and_iff_right hnames]

/-- The predicates of a command mention columns only. -/
theorem exists_reference_of_mem_predicates
    {predicates : List Predicate} {mention : Mention}
    (h : mention ∈ predicates.flatMap predicateMentions) :
  ∃ reference, mention = columnMention reference
  := by
  obtain ⟨predicate, -, hmention⟩ := List.mem_flatMap.mp h
  use predicate.column
  apply eq_of_mem_predicateMentions hmention

theorem belongsTo_delete
    (hquery : query.WellFormed) (h : delete catalog query = .ok statement) :
  BelongsTo catalog query.table statement
  := by
  have hknown := (BuiltFrom.delete h).known hquery
  obtain ⟨⟨-, hjoins⟩, htable, compared, -, rfl⟩ := delete_eq_ok_iff.mp h
  apply belongsTo_of_known hquery (hquery.tables_of_joins_eq_nil hjoins) htable rfl _ hknown
  apply exists_reference_of_mem_predicates

theorem belongsTo_update
    {record : Record} (hquery : query.WellFormed)
    (h : update catalog query record = .ok statement) :
  BelongsTo catalog query.table statement
  := by
  have hknown := (BuiltFrom.update h).known hquery
  obtain ⟨⟨-, hjoins⟩, table, htable, -, assigned, -, compared, -, rfl⟩ := update_eq_ok_iff.mp h
  have htables := hquery.tables_of_joins_eq_nil hjoins
  apply belongsTo_of_known hquery htables ⟨table, htable⟩ rfl _ hknown
  rw [List.forall_mem_append, List.forall_mem_map]
  constructor
  · intro assignment _
    use ⟨none, assignment.1, none⟩
    rfl
  · apply exists_reference_of_mem_predicates

theorem belongsTo_insert
    {records : List Record} (hquery : query.WellFormed)
    (h : insert catalog query.table records = .ok statement) :
  BelongsTo catalog query.table statement
  := by
  have hknown := (BuiltFrom.insert h).known hquery
  obtain ⟨table, htable, first, rest, rfl, -, columns, -, rows, -, rfl⟩ := insert_eq_ok_iff.mp h
  apply belongsTo_of_known (Query.wellFormed_ofTable hquery.table) rfl ⟨table, htable⟩ rfl _ hknown
  rw [List.forall_mem_map]
  intro name _
  use ⟨none, name, none⟩
  rfl

/-! ### Refusals -/

/-- The records that are inserted have values for columns of the table and for nothing else. -/
theorem hasColumn_of_insert
    {name : String} {records : List Record} (h : insert catalog name records = .ok statement) :
  ∀ record ∈ records, ∀ column ∈ record.names, catalog.hasColumn name column = true
  := by
  obtain ⟨table, htable, first, rest, rfl, -, columns, hcolumns, rows, hrows, -⟩ :=
    insert_eq_ok_iff.mp h
  apply forall_names_of_rows (p := fun column => catalog.hasColumn name column = true) _ hrows
  · rw [hcolumns.map_name]
    apply (exists_hasColumns_iff htable).mp ⟨columns, hcolumns⟩
  · rw [hcolumns.map_name]
    apply first.nodup_names

/-- A condition on anything but a column of the table is refused. -/
theorem exists_error_of_condition
    (hquery : query.WellFormed) {condition : Condition} (hcondition : condition ∈ query.conditions)
    (h : ¬ catalog.Owns query.table condition.column.qualifier condition.column.name) :
  (∃ error, delete catalog query = .error error)
    ∧ ∀ record, ∃ error, update catalog query record = .error error
  := by
  have hchange : ¬ IsChangeable catalog query := by
    intro hchange
    apply h (hchange.columns condition hcondition)
  simp only [exists_eq_error_iff, exists_delete_eq_ok_iff hquery, exists_update_eq_ok_iff hquery]
  use hchange
  rintro record ⟨hrecord, -⟩
  apply hchange hrecord

/-- A record with a value for anything but a column of the table is refused. -/
theorem exists_error_of_name
    (hquery : query.WellFormed) {record : Record} {name : String} (hname : name ∈ record.names)
    (h : catalog.hasColumn query.table name = false) :
  (∃ error, update catalog query record = .error error)
    ∧ ∀ records, record ∈ records →
      ∃ error, insert catalog query.table records = .error error
  := by
  simp only [exists_eq_error_iff, exists_update_eq_ok_iff hquery]
  constructor
  · rintro ⟨-, -, hnames⟩
    rw [hnames name hname] at h
    cases h
  · rintro records hrecord ⟨statement, hstatement⟩
    rw [hasColumn_of_insert hstatement record hrecord name hname] at h
    cases h

/-- Statements that insert, change or delete rows belong to the table of the query, and a
condition or a record with a column that this table does not have is refused. -/
theorem columns_belong
    {operators : OperatorTable} {path : String} {query : Query} (catalog : Catalog)
    (hquery : Query.parsePath operators path = .ok query) :
  (∀ records statement, insert catalog query.table records = .ok statement →
      BelongsTo catalog query.table statement)
    ∧ (∀ record statement, update catalog query record = .ok statement →
      BelongsTo catalog query.table statement)
    ∧ (∀ statement, delete catalog query = .ok statement → BelongsTo catalog query.table statement)
    ∧ (∀ condition ∈ query.conditions,
      ¬ catalog.Owns query.table condition.column.qualifier condition.column.name →
      (∃ error, delete catalog query = .error error)
        ∧ ∀ record, ∃ error, update catalog query record = .error error)
    ∧ ∀ record : Record, ∀ name ∈ record.names, catalog.hasColumn query.table name = false →
      (∃ error, update catalog query record = .error error)
        ∧ ∀ records, record ∈ records →
          ∃ error, insert catalog query.table records = .error error
  := by
  have hwellFormed := Query.wellFormed_of_parsePath hquery
  constructor
  · intro records statement h
    apply belongsTo_insert hwellFormed h
  constructor
  · intro record statement h
    apply belongsTo_update hwellFormed h
  constructor
  · intro statement h
    apply belongsTo_delete hwellFormed h
  constructor
  · intro condition hcondition h
    apply exists_error_of_condition hwellFormed hcondition h
  · intro record name hname h
    apply exists_error_of_name hwellFormed hname h

/-- A path with a condition on a column that is not there. -/
def ghostPath : String :=
  "/books?where=ghost==1"

/-- The query of the path. -/
def ghostQuery : Query :=
  { Query.ofTable "books" with conditions := [⟨⟨none, "ghost", none⟩, .equal, ["1"], rfl⟩] }

theorem columns_belong_library :
  Query.parsePath .standard libraryPath = .ok libraryQuery
    ∧ (∃ statement,
      insert library libraryQuery.table [libraryRecord, libraryRecord] = .ok statement
      ∧ BelongsTo library "books" statement)
    ∧ (∃ statement, update library libraryQuery libraryRecord = .ok statement
      ∧ BelongsTo library "books" statement)
    ∧ (∃ statement, delete library libraryQuery = .ok statement
      ∧ BelongsTo library "books" statement
      ∧ ∀ name ∈ statement.command.columnNames, library.hasColumn "books" name = true)
    ∧ Query.parsePath .standard ghostPath = .ok ghostQuery
    ∧ ∃ error, delete library ghostQuery = .error error
  := by
  have hghost : Query.parsePath .standard ghostPath = .ok ghostQuery := by
    decide +kernel
  obtain ⟨hinsert, hupdate, hdelete, -⟩ := columns_belong library parsePath_libraryPath
  obtain ⟨-, -, -, hcondition, -⟩ := columns_belong library hghost
  use parsePath_libraryPath
  constructor
  · obtain ⟨statement, hstatement⟩ : ∃ statement,
        insert library libraryQuery.table [libraryRecord, libraryRecord] = .ok statement := ⟨_, rfl⟩
    use statement, hstatement
    apply hinsert _ statement hstatement
  constructor
  · obtain ⟨statement, hstatement⟩ := exists_update_library
    use statement, hstatement
    apply hupdate _ statement hstatement
  constructor
  · obtain ⟨statement, hstatement⟩ := exists_delete_library
    have hbelongs := hdelete statement hstatement
    use statement, hstatement, hbelongs
    apply hbelongs.columns.mpr
    decide
  use hghost
  apply (hcondition _ List.mem_cons_self _).1
  rintro ⟨-, hcolumn⟩
  revert hcolumn
  decide

/-- A catalog with a table that has no `id`. -/
def tags : Catalog :=
  .ofTables [.ofColumns "tags" [⟨"name", .string⟩]]

/-- A query about that table. -/
def tagQuery : Query :=
  { Query.ofTable "tags" with conditions := [⟨⟨none, "name", none⟩, .equal, ["a"], rfl⟩] }

/-- A deletion from a table that has no `id` is built, and names a column that the table does
not have. -/
theorem delete_without_id :
  Query.parsePath .standard "/tags?where=name==a" = .ok tagQuery
    ∧ ∃ statement, delete tags tagQuery = .ok statement
      ∧ statement.sql = "DELETE FROM tags WHERE name = $1 RETURNING id"
      ∧ "id" ∈ statement.command.columnNames
      ∧ tags.hasColumn "tags" "id" = false
  := by
  refine ⟨?_, _, rfl, ?_, ?_, ?_⟩
  · decide +kernel
  · decide +kernel
  · decide
  · decide

end Statement

end TableGateway
