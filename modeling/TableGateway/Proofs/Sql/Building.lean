import Mathlib.Data.List.Nodup
import TableGateway.Proofs.Catalog.Lookup
import TableGateway.Proofs.Query.WellFormed
import TableGateway.Proofs.Sql.Collecting

/-!
# Building statements

A statement is built exactly when the checks of its kind are passed, and then it is made
of the parts of the query and of the records: the arguments are the values of the
records under the columns they are assigned to, followed by the values of the conditions
under the columns they are compared with.

There is one equivalence for each function that builds a statement, and all that is
shown of statements goes through these.
-/

namespace TableGateway

open Outcome

/-- A predicate on a well-formed column, which has arguments unless it tests for null. -/
structure Sql.Predicate.IsPlain (predicate : Sql.Predicate) : Prop where
  column : predicate.column.IsPlain
  arguments : predicate.arguments.isEmpty = predicate.operator.isNullTest

/-! ### Names in the catalog -/

/-- A table is required with success exactly if it is found. -/
theorem Catalog.requireTable_eq_ok_iff {catalog : Catalog} {name : String} {table : Table} :
  catalog.requireTable name = .ok table ↔ catalog.table? name = some table
  := by
  rw [requireTable]
  cases catalog.table? name with
  | none =>
      constructor
      · intro h
        cases h
      · intro h
        cases h
  | some found =>
      rw [Except.ok.injEq, Option.some.injEq]

/-- A column is required with success exactly if it is found. -/
theorem Table.requireColumn_eq_ok_iff {table : Table} {name : String} {column : Column} :
  table.requireColumn name = .ok column ↔ table.column? name = some column
  := by
  rw [requireColumn]
  cases table.column? name with
  | none =>
      constructor
      · intro h
        cases h
      · intro h
        cases h
  | some found =>
      rw [Except.ok.injEq, Option.some.injEq]

/-- A column of the catalog is a column of the table that has the given name. -/
theorem Catalog.column?_eq_some_iff
    {catalog : Catalog} {table name : String} {column : Column} :
  catalog.column? table name = some column
    ↔ ∃ found, catalog.table? table = some found ∧ found.column? name = some column
  := Option.bind_eq_some_iff

/-! ### The columns of records -/

/-- The columns of a table with given names. -/
def Table.HasColumns (table : Table) (names : List String) (columns : List Column) : Prop :=
  List.Forall₂ (fun name column => table.column? name = some column) names columns

/-- Columns have the names under which they are found. -/
theorem Table.HasColumns.map_name
    {table : Table} {names : List String} {columns : List Column}
    (h : table.HasColumns names columns) :
  columns.map Column.name = names
  := by
  induction h with
  | nil => rfl
  | cons hcolumn _ ih => rw [List.map_cons, name_of_column? hcolumn, ih]

theorem Table.HasColumns.length_eq
    {table : Table} {names : List String} {columns : List Column}
    (h : table.HasColumns names columns) :
  columns.length = names.length
  := by
  symm
  apply List.Forall₂.length_eq h

theorem Record.length_names (record : Record) :
  record.names.length = record.size
  := List.length_map ..

/-- The names of a record stay when they are numbered. -/
theorem Record.map_fst_zip_range' (record : Record) (first : Nat) :
  (record.names.zip (List.range' first record.size)).map Prod.fst = record.names
  := by
  apply List.map_fst_zip
  apply Nat.le_of_eq
  rw [List.length_range', length_names]

/-- A record gives each of its names the value beside it. -/
theorem Record.get?_of_mem {record : Record} {field : String × Json} (h : field ∈ record.fields) :
  record.get? field.1 = some field.2
  := (NameOrder.lookup_eq_some_iff record.sorted).mpr h

/-- A record gives a value to just its names. -/
theorem Record.isSome_get? {record : Record} {name : String} :
  (record.get? name).isSome = true ↔ name ∈ record.names
  := by
  rw [names, List.mem_map]
  constructor
  · intro h
    obtain ⟨value, hvalue⟩ := Option.isSome_iff_exists.mp h
    obtain ⟨before, after, hsplit, -⟩ := List.lookup_eq_some_iff.mp hvalue
    use (name, value)
    rw [hsplit]
    simp
  · rintro ⟨field, hfield, rfl⟩
    rw [get?_of_mem hfield]
    rfl

namespace Statement

/-- The columns of a record are found when it has values and each of its names is a
column of the table. -/
theorem recordColumns_eq_ok_iff
    {table : Table} {record : Record} {change : Change} {columns : List Column} :
  recordColumns table record change = .ok columns
    ↔ record.fields ≠ [] ∧ table.HasColumns record.names columns
  := by
  rw [recordColumns, Table.HasColumns]
  split
  · rename_i hempty
    rw [List.isEmpty_iff] at hempty
    constructor
    · intro h
      cases h
    · rintro ⟨h, -⟩
      cases h hempty
  · rename_i hfields
    rw [List.isEmpty_iff] at hfields
    simp only [mapM_eq_ok_iff, Table.requireColumn_eq_ok_iff]
    constructor
    · intro h
      use hfields, h
    · rintro ⟨-, h⟩
      apply h

/-- The arguments for the values of a record, under the columns they are assigned to. -/
def assignedArguments (record : Record) (columns : List Column) : List Argument :=
  List.zipWith (fun field column => ⟨field.2, column.type⟩) record.fields columns

theorem length_fields_eq
    {table : Table} {record : Record} {columns : List Column}
    (h : table.HasColumns record.names columns) :
  record.fields.length = columns.length
  := by
  rw [h.length_eq, Record.length_names, Record.size]

/-- An update assigns one argument for each value of its record. -/
theorem length_assignedArguments
    {table : Table} {record : Record} {columns : List Column}
    (h : table.HasColumns record.names columns) :
  (assignedArguments record columns).length = record.size
  := by
  rw [assignedArguments, List.length_zipWith, ← length_fields_eq h, Nat.min_self, Record.size]

/-- Looking the values up by the names of the columns gives the same arguments. -/
theorem filterMap_givenArgument?
    {table : Table} {record : Record} {columns : List Column}
    (h : table.HasColumns record.names columns) :
  columns.filterMap (givenArgument? record) = assignedArguments record columns
  := by
  -- The induction is on a part of the fields, whose values the whole record gives.
  suffices ∀ fields : List (String × Json), (∀ field ∈ fields, field ∈ record.fields) →
      ∀ columns, table.HasColumns (fields.map Prod.fst) columns →
      columns.filterMap (givenArgument? record)
        = List.zipWith (fun field column => ⟨field.2, column.type⟩) fields columns from
    this record.fields (fun _ hfield => hfield) columns h
  intro fields hfields columns h
  induction fields generalizing columns with
  | nil =>
      cases h
      rfl
  | cons field rest ih =>
      obtain ⟨column, columns, hcolumn, hcolumns, rfl⟩ := List.forall₂_cons_left_iff.mp h
      rw [List.forall_mem_cons] at hfields
      rw [List.filterMap_cons, givenArgument?, Table.name_of_column? hcolumn,
        Record.get?_of_mem hfields.1, List.zipWith_cons_cons, ← ih hfields.2 columns hcolumns]
      rfl

/-- The arguments of one row: the values of a record of the right size, each under the
column it is looked up by. -/
def RowOf (columns : List Column) (record : Record) (row : List Argument) : Prop :=
  record.size = columns.length
    ∧ List.Forall₂ (fun column argument => givenArgument? record column = some argument) columns row

/-- There are arguments for a record exactly when it has as many values as there are columns,
one for each of them. -/
theorem exists_rowOf_iff {columns : List Column} {record : Record} :
  (∃ row, RowOf columns record row)
    ↔ record.size = columns.length
      ∧ ∀ column ∈ columns, (record.get? column.name).isSome = true
  := by
  simp only [RowOf, exists_and_left, exists_forall₂_iff, ← Option.isSome_iff_exists, givenArgument?,
    Option.isSome_map]

/-- A row has one argument for each column. -/
theorem RowOf.length_eq {columns : List Column} {record : Record} {row : List Argument}
    (h : RowOf columns record row) :
  row.length = columns.length
  := by
  symm
  apply List.Forall₂.length_eq h.2

/-- The arguments of all rows are as many as the records times the columns. -/
theorem length_flatten_rows
    {columns : List Column} {records : List Record} {rows : List (List Argument)}
    (h : List.Forall₂ (RowOf columns) records rows) :
  rows.flatten.length = records.length * columns.length
  := by
  induction h with
  | nil => simp
  | cons hrow _ ih =>
      rw [List.flatten_cons, List.length_append, ih, hrow.length_eq, List.length_cons,
        Nat.succ_mul, Nat.add_comm]

/-- The arguments of a record are those of a row exactly if it gives a value to each column. -/
theorem recordArguments?_eq_some_iff
    {columns : List Column} {record : Record} {row : List Argument} :
  recordArguments? columns record = some row ↔ RowOf columns record row
  := by
  rw [recordArguments?, RowOf]
  split
  · rename_i hsize
    rw [mapM_eq_some_iff, and_iff_right hsize]
  · rename_i hsize
    constructor
    · intro h
      cases h
    · rintro ⟨h, -⟩
      cases hsize h

/-- The arguments of records are those of their rows, one row after the other. -/
theorem rowArguments_eq_ok_iff
    {columns : List Column} {start : Nat} {records : List Record} {arguments : List Argument} :
  rowArguments columns start records = .ok arguments
    ↔ ∃ rows, List.Forall₂ (RowOf columns) records rows ∧ arguments = rows.flatten
  := by
  induction records generalizing start arguments with
  | nil =>
      simp only [rowArguments, List.forall₂_nil_left_iff, exists_eq_left, List.flatten_nil,
        Except.ok.injEq, eq_comm]
  | cons record records ih =>
      rw [rowArguments]
      cases hrow : recordArguments? columns record with
      | none =>
          constructor
          · intro h
            cases h
          · rintro ⟨rows, hrows, -⟩
            obtain ⟨row, _, h, -⟩ := List.forall₂_cons_left_iff.mp hrows
            rw [recordArguments?_eq_some_iff.mpr h] at hrow
            cases hrow
      | some row =>
          simp only [bind_eq_ok_iff, pure_eq_ok_iff, ih]
          constructor
          · rintro ⟨_, ⟨rows, hrows, rfl⟩, rfl⟩
            use row :: rows
            constructor
            · apply List.Forall₂.cons (recordArguments?_eq_some_iff.mp hrow) hrows
            · rfl
          · rintro ⟨_, hrows, rfl⟩
            obtain ⟨_, rows, h, hrest, rfl⟩ := List.forall₂_cons_left_iff.mp hrows
            rw [recordArguments?_eq_some_iff.mpr h] at hrow
            cases hrow
            use rows.flatten, ⟨rows, hrest, rfl⟩
            rfl

/-! ### The columns of conditions -/

/-- The arguments for the values of conditions, under the columns they are compared
with. -/
def comparedArguments (conditions : List Condition) (columns : List Column) : List Argument :=
  (List.zipWith (fun condition column => conditionArguments column condition)
    conditions columns).flatten

/-- The columns that conditions are about. -/
def Compares
    (catalog : Catalog) (query : Query) (conditions : List Condition) (columns : List Column) :
    Prop :=
  List.Forall₂ (fun condition column => query.resolve catalog condition.column = .ok column)
    conditions columns

/-- Conditions have arguments exactly when each of their columns is found. -/
theorem filterArguments_eq_ok_iff
    {catalog : Catalog} {query : Query} {conditions : List Condition}
    {arguments : List Argument} :
  filterArguments catalog query conditions = .ok arguments
    ↔ ∃ columns, Compares catalog query conditions columns
      ∧ arguments = comparedArguments conditions columns
  := by
  induction conditions generalizing arguments with
  | nil =>
      simp only [filterArguments, Compares, List.forall₂_nil_left_iff, exists_eq_left,
        Except.ok.injEq]
      apply eq_comm
  | cons condition rest ih =>
      simp only [filterArguments, bind_eq_ok_iff, pure_eq_ok_iff, ih]
      constructor
      · rintro ⟨column, hcolumn, _, ⟨columns, hcolumns, rfl⟩, rfl⟩
        use column :: columns
        constructor
        · rw [Compares, List.forall₂_cons]
          use hcolumn, hcolumns
        · rfl
      · rintro ⟨_, h, rfl⟩
        obtain ⟨column, columns, hcolumn, hcolumns, rfl⟩ := List.forall₂_cons_left_iff.mp h
        use column, hcolumn, comparedArguments rest columns, ⟨columns, hcolumns, rfl⟩
        rfl

/-- The number of the values of conditions. -/
def valueCount (conditions : List Condition) : Nat :=
  (conditions.flatMap Condition.values).length

theorem valueCount_cons (condition : Condition) (rest : List Condition) :
  valueCount (condition :: rest) = condition.values.length + valueCount rest
  := by
  rw [valueCount, List.flatMap_cons, List.length_append, valueCount]

/-- The arguments of conditions are as many as their values. -/
theorem length_comparedArguments
    {catalog : Catalog} {query : Query} {conditions : List Condition} {columns : List Column}
    (h : Compares catalog query conditions columns) :
  (comparedArguments conditions columns).length = valueCount conditions
  := by
  induction h with
  | nil => rfl
  | cons _ _ ih =>
      rw [comparedArguments, List.zipWith_cons_cons, List.flatten_cons, List.length_append,
        valueCount_cons, ← comparedArguments, ih, conditionArguments, List.length_map]

/-! ### The predicates of conditions -/

/-- The predicates of conditions are numbered one value after the other. -/
theorem flatMap_arguments_predicates (first : Nat) (conditions : List Condition) :
  (predicates first conditions).flatMap Sql.Predicate.arguments
    = List.range' first (valueCount conditions)
  := by
  induction conditions generalizing first with
  | nil => rfl
  | cons condition rest ih =>
      rw [predicates, List.flatMap_cons, ih, valueCount_cons, List.range'_append_1]

/-- Conditions that are there make a filter. -/
theorem whereText_predicates
    {first : Nat} {conditions : List Condition} (h : conditions ≠ []) :
  Sql.whereText (predicates first conditions)
    = " WHERE " ++ Sql.conjunction (predicates first conditions)
  := by
  rw [Sql.whereText, if_neg]
  rw [List.isEmpty_iff]
  apply predicates_ne_nil h

/-- There is one predicate for each condition, with its column, its operator and an
argument for each of its values. -/
theorem forall₂_predicates (first : Nat) (conditions : List Condition) :
  List.Forall₂
    (fun condition predicate => predicate.column = condition.column
      ∧ predicate.operator = condition.operator
      ∧ predicate.arguments.length = condition.values.length)
    conditions (predicates first conditions)
  := by
  induction conditions generalizing first with
  | nil => apply List.Forall₂.nil
  | cons condition rest ih =>
      rw [predicates, List.forall₂_cons]
      use ⟨rfl, rfl, List.length_range'⟩
      apply ih

/-- The predicates of plain conditions are plain. -/
theorem isPlain_predicates
    {first : Nat} {conditions : List Condition}
    (h : ∀ condition ∈ conditions, condition.IsPlain) :
  ∀ predicate ∈ predicates first conditions, predicate.IsPlain
  := by
  induction conditions generalizing first with
  | nil => simp [predicates]
  | cons condition rest ih =>
      rw [List.forall_mem_cons] at h
      rw [predicates, List.forall_mem_cons]
      constructor
      · constructor
        · apply h.1.column
        · rw [← condition.valid]
          cases condition.values <;> rfl
      · apply ih h.2

/-! ### The statements

Numbers and arguments are told apart: a command has the numbers of its parts, and a statement
the arguments of the parts in the same order. -/

/-- The statement that returns the rows of a query, with the numbers and the arguments of its
conditions. -/
theorem select_eq (catalog : Catalog) (query : Query) :
  select catalog query = (do
    let _ ← catalog.requireTable query.table
    query.checkJoins catalog [query.table] query.joins
    query.checkColumns catalog query.columns
    let arguments ← filterArguments catalog query query.conditions
    return {
      command := .select query.columns query.table query.joins (predicates 1 query.conditions)
        query.limit query.offset
      arguments })
  := by
  have hcollecting : (ofCollecting do
        let predicates ← collectConditions catalog query query.conditions
        return .select query.columns query.table query.joins predicates query.limit query.offset)
      = (do
        let arguments ← filterArguments catalog query query.conditions
        return {
          command := .select query.columns query.table query.joins (predicates 1 query.conditions)
            query.limit query.offset
          arguments }) := by
    rw [ofCollecting, StateT.run_bind, run_collectConditions]
    cases filterArguments catalog query query.conditions <;> rfl
  rw [select, hcollecting]

/-- The statement that inserts records, with the numbers and the arguments of its rows. -/
theorem insert_cons (catalog : Catalog) (table : String) (first : Record) (rest : List Record) :
  insert catalog table (first :: rest) = (do
    let definition ← catalog.requireTable table
    let columns ← recordColumns definition first .insert
    let arguments ← rowArguments columns 0 (first :: rest)
    return {
      command := .insert table (columns.map Column.name)
        (tuples (first :: rest).length columns.length)
      arguments })
  := by
  have hcollecting : ∀ columns : List Column, (ofCollecting do
        let tuples ← collectRows columns 0 (first :: rest)
        return .insert table (columns.map Column.name) tuples)
      = (do
        let arguments ← rowArguments columns 0 (first :: rest)
        return {
          command := .insert table (columns.map Column.name)
            (tuples (first :: rest).length columns.length)
          arguments }) := by
    intro columns
    have hstart : ([] : List Argument).length = 0 * columns.length := (Nat.zero_mul _).symm
    rw [ofCollecting, StateT.run_bind, run_collectRows columns 0 _ hstart, tuplesFrom_zero]
    cases rowArguments columns 0 (first :: rest) <;> rfl
  simp only [insert, List.head?_cons, hcollecting]

/-- A change is let through exactly if it has conditions and no joins. -/
theorem checkChange_eq_ok_iff {query : Query} {change : Change} {passed : Unit} :
  checkChange query change = .ok passed ↔ query.conditions ≠ [] ∧ query.joins = []
  := by
  rw [checkChange]
  cases query.conditions <;> cases query.joins <;> simp

/-- The statement that deletes the rows of a query, with the numbers and the arguments of its
conditions. -/
theorem delete_eq (catalog : Catalog) (query : Query) :
  delete catalog query = (do
    checkChange query .delete
    let _ ← catalog.requireTable query.table
    let arguments ← filterArguments catalog query query.conditions
    return {
      command := .delete query.table (predicates 1 query.conditions)
      arguments })
  := by
  rw [delete]
  apply bind_congr_of_ok
  intro _ hchange
  apply bind_congr_of_ok
  intro _ _
  rw [ofCollecting, StateT.run_bind, run_collectFilter catalog (checkChange_eq_ok_iff.mp hchange).1]
  cases filterArguments catalog query query.conditions <;> rfl

/-- The columns that a record is checked for are all given values. -/
theorem exists_forall₂_givenArgument?
    {table : Table} {record : Record} {columns : List Column}
    (h : table.HasColumns record.names columns) :
  ∃ arguments, List.Forall₂ (fun column argument => givenArgument? record column = some argument)
    columns arguments
  := by
  apply exists_forall₂_iff.mpr
  intro column hcolumn
  apply Option.isSome_iff_exists.mp
  rw [givenArgument?, Option.isSome_map, Record.isSome_get?, ← h.map_name]
  apply List.mem_map_of_mem hcolumn

/-- The statement that changes the rows of a query: the values of the record are numbered
before those of the conditions. -/
theorem update_eq (catalog : Catalog) (query : Query) (record : Record) :
  update catalog query record = (do
    checkChange query .update
    let table ← catalog.requireTable query.table
    let columns ← recordColumns table record .update
    let arguments ← filterArguments catalog query query.conditions
    return {
      command := .update query.table
        ((columns.map Column.name).zip (List.range' 1 columns.length))
        (predicates (columns.length + 1) query.conditions)
      arguments := columns.filterMap (givenArgument? record) ++ arguments })
  := by
  rw [update]
  apply bind_congr_of_ok
  intro _ hchange
  apply bind_congr_of_ok
  intro table _
  apply bind_congr_of_ok
  intro columns hcolumns
  obtain ⟨assigned, hassigned⟩ :=
    exists_forall₂_givenArgument? (recordColumns_eq_ok_iff.mp hcolumns).2
  have hlength : assigned.length = columns.length := hassigned.length_eq.symm
  rw [ofCollecting, run_bind_of_ok (run_collectAssignments hassigned []), StateT.run_bind,
    run_collectFilter catalog (checkChange_eq_ok_iff.mp hchange).1, List.nil_append, hlength,
    filterMap_eq_of_forall₂ hassigned]
  cases filterArguments catalog query query.conditions <;> rfl

/-- A selection is built exactly if its table exists, its joins and its columns pass their checks,
and each column of its conditions is found; then it is the one that the query describes. -/
theorem select_eq_ok_iff {catalog : Catalog} {query : Query} {statement : Statement} :
  select catalog query = .ok statement
    ↔ (∃ table, catalog.table? query.table = some table)
      ∧ query.checkJoins catalog [query.table] query.joins = .ok ()
      ∧ query.checkColumns catalog query.columns = .ok ()
      ∧ ∃ compared, Compares catalog query query.conditions compared
      ∧ statement =
        { command := .select query.columns query.table query.joins
            (predicates 1 query.conditions) query.limit query.offset
          arguments := comparedArguments query.conditions compared }
  := by
  simp only [select_eq, bind_eq_ok_iff, pure_eq_ok_iff, Catalog.requireTable_eq_ok_iff,
    filterArguments_eq_ok_iff]
  constructor
  · rintro ⟨table, htable, _, hjoins, _, hcolumns, _, ⟨compared, hcompared, rfl⟩, rfl⟩
    use ⟨table, htable⟩, hjoins, hcolumns, compared, hcompared
  · rintro ⟨⟨table, htable⟩, hjoins, hcolumns, compared, hcompared, rfl⟩
    use table, htable, (), hjoins, (), hcolumns, comparedArguments query.conditions compared,
      ⟨compared, hcompared, rfl⟩

/-- An insertion is built exactly if its table exists, there are records, the first of them is not
empty and has columns of the table as its names, and the others give values to the same ones. -/
theorem insert_eq_ok_iff
    {catalog : Catalog} {name : String} {records : List Record} {statement : Statement} :
  insert catalog name records = .ok statement
    ↔ ∃ table, catalog.table? name = some table
      ∧ ∃ first rest, records = first :: rest
      ∧ first.fields ≠ []
      ∧ ∃ columns, table.HasColumns first.names columns
      ∧ ∃ rows, List.Forall₂ (RowOf columns) records rows
      ∧ statement =
        { command := .insert name first.names (tuples records.length first.size)
          arguments := rows.flatten }
  := by
  cases records with
  | nil =>
      simp only [insert, bind_eq_ok_iff]
      constructor
      · rintro ⟨_, -, h⟩
        cases h
      · rintro ⟨_, -, _, _, h, _⟩
        cases h
  | cons first rest =>
      simp only [insert_cons, bind_eq_ok_iff, Catalog.requireTable_eq_ok_iff]
      apply exists_congr
      intro table
      apply and_congr_right
      intro _
      simp only [pure_eq_ok_iff, recordColumns_eq_ok_iff, rowArguments_eq_ok_iff, List.cons.injEq,
        and_assoc, exists_and_left, exists_eq_left']
      constructor
      · rintro ⟨hfields, columns, hcolumns, _, ⟨rows, hrows, rfl⟩, rfl⟩
        use hfields, columns, hcolumns, rows, hrows
        rw [hcolumns.map_name, hcolumns.length_eq, Record.length_names]
      · rintro ⟨hfields, columns, hcolumns, rows, hrows, rfl⟩
        use hfields, columns, hcolumns, rows.flatten, ⟨rows, hrows, rfl⟩
        rw [hcolumns.map_name, hcolumns.length_eq, Record.length_names]

/-- An update is built exactly if it has conditions and no joins, its table exists, its record is
not empty, and each column of the record and of the conditions is found. -/
theorem update_eq_ok_iff
    {catalog : Catalog} {query : Query} {record : Record} {statement : Statement} :
  update catalog query record = .ok statement
    ↔ (query.conditions ≠ [] ∧ query.joins = [])
      ∧ ∃ table, catalog.table? query.table = some table
      ∧ record.fields ≠ []
      ∧ ∃ assigned, table.HasColumns record.names assigned
      ∧ ∃ compared, Compares catalog query query.conditions compared
      ∧ statement =
        { command := .update query.table (record.names.zip (List.range' 1 record.size))
            (predicates (record.size + 1) query.conditions)
          arguments := assignedArguments record assigned
            ++ comparedArguments query.conditions compared }
  := by
  simp only [update_eq, bind_eq_ok_iff, pure_eq_ok_iff, checkChange_eq_ok_iff,
    Catalog.requireTable_eq_ok_iff, recordColumns_eq_ok_iff, filterArguments_eq_ok_iff]
  constructor
  · rintro ⟨_, hchange, table, htable, assigned, ⟨hfields, hassigned⟩, _,
      ⟨compared, hcompared, rfl⟩, rfl⟩
    use hchange, table, htable, hfields, assigned, hassigned, compared, hcompared
    rw [filterMap_givenArgument? hassigned, hassigned.map_name, hassigned.length_eq,
      Record.length_names]
  · rintro ⟨hchange, table, htable, hfields, assigned, hassigned, compared, hcompared, rfl⟩
    use (), hchange, table, htable, assigned, ⟨hfields, hassigned⟩,
      comparedArguments query.conditions compared, ⟨compared, hcompared, rfl⟩
    rw [filterMap_givenArgument? hassigned, hassigned.map_name, hassigned.length_eq,
      Record.length_names]

/-- A deletion is built exactly if it has conditions and no joins, its table exists, and each column
of the conditions is found. -/
theorem delete_eq_ok_iff {catalog : Catalog} {query : Query} {statement : Statement} :
  delete catalog query = .ok statement
    ↔ (query.conditions ≠ [] ∧ query.joins = [])
      ∧ (∃ table, catalog.table? query.table = some table)
      ∧ ∃ compared, Compares catalog query query.conditions compared
      ∧ statement =
        { command := .delete query.table (predicates 1 query.conditions)
          arguments := comparedArguments query.conditions compared }
  := by
  simp only [delete_eq, bind_eq_ok_iff, pure_eq_ok_iff, checkChange_eq_ok_iff,
    Catalog.requireTable_eq_ok_iff, filterArguments_eq_ok_iff]
  constructor
  · rintro ⟨_, hchange, table, htable, _, ⟨compared, hcompared, rfl⟩, rfl⟩
    use hchange, ⟨table, htable⟩, compared, hcompared
  · rintro ⟨hchange, ⟨table, htable⟩, compared, hcompared, rfl⟩
    use (), hchange, table, htable, comparedArguments query.conditions compared,
      ⟨compared, hcompared, rfl⟩

end Statement

/-! ### A library

A small catalog with a query and a record, on which the statements below are evaluated. -/

/-- The catalog of a library. -/
def library : Catalog :=
  .ofTables [
    .ofColumns "authors" [⟨"id", .int⟩, ⟨"name", .string⟩, ⟨"died", .int⟩],
    .ofColumns "books" [⟨"id", .int⟩, ⟨"title", .string⟩, ⟨"author", .int⟩, ⟨"year", .int⟩]]

/-- A path with a comparison, a membership and a null test. -/
def libraryPath : String :=
  "/books?where=year>=1900,2000;books.title=in=a%2Cb,c;author=isnull=&limit=5"

/-- The query of the path. -/
def libraryQuery : Query where
  table := "books"
  tables := ["books"]
  columns := []
  conditions := [
    ⟨⟨none, "year", none⟩, .atLeast, ["1900", "2000"], rfl⟩,
    ⟨⟨some "books", "title", none⟩, .oneOf, ["a,b", "c"], rfl⟩,
    ⟨⟨none, "author", none⟩, .isNull, [], rfl⟩]
  joins := []
  limit := some 5
  offset := none

/-- The path of the query about the library is read as it. -/
theorem parsePath_libraryPath :
  Query.parsePath .standard libraryPath = .ok libraryQuery
  := by
  decide +kernel

/-- A path with a join, a label and a condition on a column of the joined table. -/
def joinedPath : String :=
  "/books?select=title,authors.name:by&left_join=authors:books.author==authors.id&where=died>1900"

/-- The query of the path. -/
def joinedQuery : Query where
  table := "books"
  tables := ["books", "authors"]
  columns := [⟨none, "title", none⟩, ⟨some "authors", "name", some "by"⟩]
  conditions := [⟨⟨none, "died", none⟩, .above, ["1900"], rfl⟩]
  joins := [⟨.left, "authors", ⟨some "books", "author", none⟩, ⟨some "authors", "id", none⟩⟩]
  limit := none
  offset := none

theorem parsePath_joinedPath :
  Query.parsePath .standard joinedPath = .ok joinedQuery
  := by
  decide +kernel

/-- A record one of whose values looks like a placeholder. -/
def libraryRecord : Record :=
  .ofMembers [("year", .number (.integer 1999)), ("title", .string "$1")]

theorem exists_select_library :
  ∃ statement, Statement.select library libraryQuery = .ok statement
  := ⟨_, rfl⟩

theorem exists_select_joined :
  ∃ statement, Statement.select library joinedQuery = .ok statement
  := ⟨_, rfl⟩

theorem exists_delete_library :
  ∃ statement, Statement.delete library libraryQuery = .ok statement
  := ⟨_, rfl⟩

theorem exists_update_library :
  ∃ statement, Statement.update library libraryQuery libraryRecord = .ok statement
  := ⟨_, rfl⟩

end TableGateway
