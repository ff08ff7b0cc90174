import Mathlib.Data.List.Perm.Subperm
import TableGateway.Proofs.Sql.Fragment

/-!
# The names in a statement

The text of a statement has the names of the query and of the records it is built from, and
no others. The names of a query are identifiers, since it is read that way. Those of a
record are only looked up in the catalog.

So the text of a selection or a deletion has identifiers for names, whatever the catalog,
and the text of an insertion or a change has them exactly when the names of its records are
identifiers, as they are if the columns of the table are.
-/

namespace TableGateway.Sql

/-! ### The names of the parts of a command -/

/-- Fragments all of whose names are identifiers. -/
def NamesIdentifiers (fragments : List Fragment) : Prop :=
  ∀ name ∈ namesOf fragments, IsName name

@[simp]
theorem namesIdentifiers_nil :
  NamesIdentifiers []
  := by
  simp [NamesIdentifiers]

@[simp]
theorem namesIdentifiers_cons_iff {fragment : Fragment} {rest : List Fragment} :
  NamesIdentifiers (fragment :: rest)
    ↔ (∀ name ∈ fragment.name?, IsName name) ∧ NamesIdentifiers rest
  := by
  simp only [NamesIdentifiers, namesOf, collect_cons, List.forall_mem_append, Option.mem_toList,
    Option.mem_def]

/-- Joined fragments name identifiers exactly when both parts do. -/
@[simp]
theorem namesIdentifiers_append_iff {first second : List Fragment} :
  NamesIdentifiers (first ++ second) ↔ NamesIdentifiers first ∧ NamesIdentifiers second
  := by
  simp only [NamesIdentifiers, namesOf, collect_append, List.forall_mem_append]

/-- Fragments for each element name identifiers exactly when those for every element do. -/
@[simp]
theorem namesIdentifiers_flatMap_iff {α : Type} {fragments : α → List Fragment} {xs : List α} :
  NamesIdentifiers (xs.flatMap fragments) ↔ ∀ x ∈ xs, NamesIdentifiers (fragments x)
  := by
  simp only [NamesIdentifiers, namesOf, collect_flatMap, List.mem_flatMap]
  constructor
  · intro h x hx name hname
    apply h name ⟨x, hx, hname⟩
  · rintro h name ⟨x, hx, hname⟩
    apply h x hx name hname

/-- A separator of fixed text names nothing. -/
@[simp]
theorem namesIdentifiers_intercalate_iff
    {text : String} {known : text ∈ wording} {α : Type} {fragments : α → List Fragment}
    {xs : List α} :
  NamesIdentifiers ([.fixed text known].intercalate (xs.map fragments))
    ↔ ∀ x ∈ xs, NamesIdentifiers (fragments x)
  := by
  rw [← namesIdentifiers_flatMap_iff, NamesIdentifiers, NamesIdentifiers, namesOf_intercalate,
    namesOf, collect_flatMap]

/-- A plain column is named by identifiers. -/
theorem namesIdentifiers_columnFragments {column : ColumnRef} (h : column.IsPlain) :
  NamesIdentifiers (columnFragments column)
  := by
  rw [columnFragments]
  split
  · rename_i qualifier hqualifier
    simp [Fragment.name?, h.qualifier qualifier hqualifier, h.name]
  · simp [Fragment.name?, h.name]

theorem namesIdentifiers_selectedFragments {column : ColumnRef} (h : column.IsPlain) :
  NamesIdentifiers (selectedFragments column)
  := by
  rw [selectedFragments]
  split
  · rename_i label hlabel
    simp [Fragment.name?, namesIdentifiers_columnFragments h, h.label label hlabel]
  · apply namesIdentifiers_columnFragments h

/-- Plain columns are selected by identifiers. -/
theorem namesIdentifiers_projectionFragments
    {columns : List ColumnRef} (h : ∀ column ∈ columns, column.IsPlain) :
  NamesIdentifiers (projectionFragments columns)
  := by
  rw [projectionFragments]
  split
  · simp [Fragment.name?]
  · rw [namesIdentifiers_intercalate_iff]
    intro column hcolumn
    apply namesIdentifiers_selectedFragments (h column hcolumn)

/-- Plain joins are named by identifiers. -/
theorem namesIdentifiers_joinFragments {join : Join} (h : join.IsPlain) :
  NamesIdentifiers (joinFragments join)
  := by
  simp [joinFragments, Fragment.name?, h.table,
    namesIdentifiers_columnFragments h.left.toIsPlain,
    namesIdentifiers_columnFragments h.right.toIsPlain]

/-- The columns of predicates are the only names in them. -/
theorem namesIdentifiers_predicateFragments
    {predicate : Predicate} (h : predicate.column.IsPlain) :
  NamesIdentifiers (predicateFragments predicate)
  := by
  have hcolumn := namesIdentifiers_columnFragments h
  rw [predicateFragments]
  split
  · simp [Fragment.name?, hcolumn]
  · split
    · simp [argumentFragments, Fragment.name?, hcolumn]
    · split
      · simp [comparisonFragments, Fragment.name?, hcolumn]
      · simp [comparisonFragments, Fragment.name?, hcolumn]

/-- The columns of a filter are named by identifiers if they are plain. -/
theorem namesIdentifiers_whereFragments
    {predicates : List Predicate} (h : ∀ predicate ∈ predicates, predicate.column.IsPlain) :
  NamesIdentifiers (whereFragments predicates)
  := by
  rw [whereFragments]
  split
  · apply namesIdentifiers_nil
  · rw [namesIdentifiers_cons_iff, namesIdentifiers_intercalate_iff]
    constructor
    · simp [Fragment.name?]
    · intro predicate hpredicate
      apply namesIdentifiers_predicateFragments (h predicate hpredicate)

theorem namesIdentifiers_boundFragments (bound : RowBound) (rows : Option Nat) :
  NamesIdentifiers (boundFragments bound rows)
  := by
  cases bound <;> cases rows <;> simp [boundFragments, Fragment.name?]

theorem namesIdentifiers_tupleFragments (arguments : List Nat) :
  NamesIdentifiers (tupleFragments arguments)
  := by
  simp [tupleFragments, argumentFragments, Fragment.name?]

/-- The name in an assignment is the only one that does not come from the query. -/
theorem namesIdentifiers_assignmentFragments_iff {assignment : String × Nat} :
  NamesIdentifiers (assignmentFragments assignment) ↔ IsName assignment.1
  := by
  simp [assignmentFragments, Fragment.name?]

end TableGateway.Sql

namespace TableGateway.Statement

open Sql

/-! ### The names of statements -/

/-- A statement whose text is put together of fragments all of whose names are
identifiers. -/
structure HasPlainNames (statement : Statement) : Prop where
  text : statement.sql = textOf statement.command.fragments
  names : NamesIdentifiers statement.command.fragments

/-- A statement has plain names exactly when its fragments name identifiers. -/
theorem hasPlainNames_iff {statement : Statement} :
  statement.HasPlainNames ↔ NamesIdentifiers statement.command.fragments
  := by
  constructor
  · intro h
    apply h.names
  · intro h
    use (Command.textOf_fragments statement.command).symm

/-- The predicates of plain conditions have plain columns. -/
theorem isPlain_column_predicates
    {first : Nat} {conditions : List Condition}
    (h : ∀ condition ∈ conditions, condition.IsPlain) :
  ∀ predicate ∈ predicates first conditions, predicate.column.IsPlain
  := by
  intro predicate hpredicate
  apply (isPlain_predicates h predicate hpredicate).column

/-- All names in a selection are identifiers, whatever the catalog. -/
theorem hasPlainNames_select
    {catalog : Catalog} {query : Query} {statement : Statement} (hquery : query.WellFormed)
    (h : select catalog query = .ok statement) :
  statement.HasPlainNames
  := by
  obtain ⟨-, -, -, compared, -, rfl⟩ := select_eq_ok_iff.mp h
  rw [hasPlainNames_iff, Command.fragments]
  simp [Fragment.name?, hquery.table, namesIdentifiers_boundFragments,
    namesIdentifiers_projectionFragments hquery.columns,
    namesIdentifiers_whereFragments (isPlain_column_predicates hquery.conditions)]
  intro join hjoin
  apply namesIdentifiers_joinFragments (hquery.joins join hjoin)

/-- All names in a deletion are identifiers, whatever the catalog. -/
theorem hasPlainNames_delete
    {catalog : Catalog} {query : Query} {statement : Statement} (hquery : query.WellFormed)
    (h : delete catalog query = .ok statement) :
  statement.HasPlainNames
  := by
  have hid : IsName "id" := by decide
  obtain ⟨-, -, compared, -, rfl⟩ := delete_eq_ok_iff.mp h
  rw [hasPlainNames_iff, Command.fragments]
  simp [Fragment.name?, hquery.table, hid,
    namesIdentifiers_whereFragments (isPlain_column_predicates hquery.conditions)]

/-- Beside the names of the query, the text of a change has those of the record. -/
theorem hasPlainNames_update_iff
    {catalog : Catalog} {query : Query} {record : Record} {statement : Statement}
    (hquery : query.WellFormed) (h : update catalog query record = .ok statement) :
  statement.HasPlainNames ↔ ∀ name ∈ record.names, IsName name
  := by
  have hid : IsName "id" := by decide
  obtain ⟨-, table, -, -, assigned, -, compared, -, rfl⟩ := update_eq_ok_iff.mp h
  rw [hasPlainNames_iff, Command.fragments]
  conv_rhs => rw [← record.map_fst_zip_range' 1, List.forall_mem_map]
  simp [Fragment.name?, hquery.table, hid, namesIdentifiers_assignmentFragments_iff,
    namesIdentifiers_whereFragments (isPlain_column_predicates hquery.conditions)]

/-- The records of an insertion have the names that its first record has. -/
theorem names_perm_of_rowOf
    {columns : List Column} {record : Record} {row : List Argument} (h : RowOf columns record row)
    (hnodup : (columns.map Column.name).Nodup) :
  (columns.map Column.name).Perm record.names
  := by
  obtain ⟨hsize, hrow⟩ := h
  have hsubset : columns.map Column.name ⊆ record.names := by
    clear hsize hnodup
    induction hrow with
    | nil => simp
    | cons hvalue _ ih =>
        rw [List.map_cons, List.cons_subset]
        constructor
        · obtain ⟨value, hvalue, -⟩ := Option.map_eq_some_iff.mp hvalue
          apply Record.isSome_get?.mp
          rw [hvalue]
          rfl
        · apply ih
  apply (List.subperm_of_subset hnodup hsubset).perm_of_length_le
  apply Nat.le_of_eq
  rw [Record.length_names, hsize, List.length_map]

/-- What holds of the names of columns holds of those of all records that give values to them. -/
theorem forall_names_of_rows
    {p : String → Prop} {columns : List Column} (hnodup : (columns.map Column.name).Nodup)
    {records : List Record} {rows : List (List Argument)}
    (h : List.Forall₂ (RowOf columns) records rows)
    (hnames : ∀ name ∈ columns.map Column.name, p name) :
  ∀ record ∈ records, ∀ name ∈ record.names, p name
  := by
  induction h with
  | nil => simp
  | cons hrow _ ih =>
      rw [List.forall_mem_cons]
      constructor
      · intro name hname
        apply hnames name ((names_perm_of_rowOf hrow hnodup).mem_iff.mpr hname)
      · apply ih

/-- Beside the name of its table, the text of an insertion has those of the records. -/
theorem hasPlainNames_insert_iff
    {catalog : Catalog} {name : String} {records : List Record} {statement : Statement}
    (hname : IsName name) (h : insert catalog name records = .ok statement) :
  statement.HasPlainNames ↔ ∀ record ∈ records, ∀ column ∈ record.names, IsName column
  := by
  have hid : IsName "id" := by decide
  obtain ⟨table, -, first, rest, rfl, -, columns, hcolumns, rows, hrows, rfl⟩ :=
    insert_eq_ok_iff.mp h
  have htuples : ∀ tuple ∈ tuples (first :: rest).length first.size,
      NamesIdentifiers (tupleFragments tuple) :=
    fun tuple _ => namesIdentifiers_tupleFragments tuple
  have hfirst : NamesIdentifiers (Command.insert name first.names
        (tuples (first :: rest).length first.size)).fragments
      ↔ ∀ column ∈ first.names, IsName column := by
    rw [Command.fragments]
    simp [Fragment.name?, hname, hid, namesIdentifiers_tupleFragments]
  rw [hasPlainNames_iff, hfirst]
  constructor
  · intro hplain
    apply forall_names_of_rows (p := IsName) _ hrows
    · rw [hcolumns.map_name]
      apply hplain
    · rw [hcolumns.map_name]
      apply first.nodup_names
  · intro hplain
    apply hplain first List.mem_cons_self

/-! ### Plain tables -/

/-- A table of a catalog whose columns have identifiers for names. -/
def PlainColumns (catalog : Catalog) (name : String) : Prop :=
  ∀ table ∈ catalog.table? name, ∀ column ∈ table.columns, IsName column.name

/-- Names of columns are identifiers where those of the catalog are. -/
theorem isName_of_hasColumns
    {catalog : Catalog} {name : String} (hplain : PlainColumns catalog name) {table : Table}
    (htable : catalog.table? name = some table) {names : List String} {columns : List Column}
    (h : table.HasColumns names columns) :
  ∀ column ∈ names, IsName column
  := by
  rw [← h.map_name, List.forall_mem_map]
  induction h with
  | nil => simp
  | cons hcolumn _ ih =>
      rw [List.forall_mem_cons]
      constructor
      · apply hplain table htable _ (Table.mem_of_column? hcolumn)
      · apply ih

/-- The record of an update has only names of columns. -/
theorem isName_of_update
    {catalog : Catalog} {query : Query} {record : Record} {statement : Statement}
    (hplain : PlainColumns catalog query.table) (h : update catalog query record = .ok statement) :
  ∀ name ∈ record.names, IsName name
  := by
  obtain ⟨-, table, htable, -, assigned, hassigned, -⟩ := update_eq_ok_iff.mp h
  apply isName_of_hasColumns hplain htable hassigned

/-- All records of an insertion have only names of columns. -/
theorem isName_of_insert
    {catalog : Catalog} {name : String} {records : List Record} {statement : Statement}
    (hplain : PlainColumns catalog name) (h : insert catalog name records = .ok statement) :
  ∀ record ∈ records, ∀ column ∈ record.names, IsName column
  := by
  obtain ⟨table, htable, first, rest, rfl, -, columns, hcolumns, rows, hrows, -⟩ :=
    insert_eq_ok_iff.mp h
  apply forall_names_of_rows (p := IsName) _ hrows
  · rw [hcolumns.map_name]
    apply isName_of_hasColumns hplain htable hcolumns
  · rw [hcolumns.map_name]
    apply first.nodup_names

/-- The text of a selection or a deletion has identifiers for names, whatever the catalog.
The text of a change or an insertion has them exactly when the names of its records are
identifiers, which they are if the table has such columns only. -/
theorem names_plain
    {operators : OperatorTable} {path : String} {query : Query} (catalog : Catalog)
    (hquery : Query.parsePath operators path = .ok query) :
  (∀ statement, select catalog query = .ok statement → statement.HasPlainNames)
    ∧ (∀ statement, delete catalog query = .ok statement → statement.HasPlainNames)
    ∧ (∀ record statement, update catalog query record = .ok statement →
      (statement.HasPlainNames ↔ ∀ name ∈ record.names, IsName name))
    ∧ (∀ records statement, insert catalog query.table records = .ok statement →
      (statement.HasPlainNames ↔ ∀ record ∈ records, ∀ name ∈ record.names, IsName name))
    ∧ (PlainColumns catalog query.table →
      (∀ record statement, update catalog query record = .ok statement →
          statement.HasPlainNames)
        ∧ ∀ records statement, insert catalog query.table records = .ok statement →
          statement.HasPlainNames)
  := by
  have hwellFormed := Query.wellFormed_of_parsePath hquery
  constructor
  · intro statement h
    apply hasPlainNames_select hwellFormed h
  constructor
  · intro statement h
    apply hasPlainNames_delete hwellFormed h
  constructor
  · intro record statement h
    apply hasPlainNames_update_iff hwellFormed h
  constructor
  · intro records statement h
    apply hasPlainNames_insert_iff hwellFormed.table h
  intro hplain
  constructor
  · intro record statement h
    apply (hasPlainNames_update_iff hwellFormed h).mpr (isName_of_update hplain h)
  · intro records statement h
    apply (hasPlainNames_insert_iff hwellFormed.table h).mpr (isName_of_insert hplain h)

theorem names_plain_library :
  Query.parsePath .standard libraryPath = .ok libraryQuery
    ∧ (∃ statement, select library libraryQuery = .ok statement ∧ statement.HasPlainNames)
    ∧ (∃ statement, delete library libraryQuery = .ok statement ∧ statement.HasPlainNames)
    ∧ PlainColumns library libraryQuery.table
    ∧ (∃ statement, update library libraryQuery libraryRecord = .ok statement
      ∧ statement.HasPlainNames)
    ∧ ∃ statement,
      insert library libraryQuery.table [libraryRecord, libraryRecord] = .ok statement
      ∧ statement.HasPlainNames
  := by
  obtain ⟨hselect, hdelete, hupdate, -, hplain⟩ := names_plain library parsePath_libraryPath
  have hcolumns : PlainColumns library libraryQuery.table := by
    intro table htable
    cases htable
    decide
  use parsePath_libraryPath
  constructor
  · obtain ⟨statement, hstatement⟩ := exists_select_library
    use statement, hstatement
    apply hselect statement hstatement
  constructor
  · obtain ⟨statement, hstatement⟩ := exists_delete_library
    use statement, hstatement
    apply hdelete statement hstatement
  use hcolumns
  constructor
  · obtain ⟨statement, hstatement⟩ := exists_update_library
    use statement, hstatement
    apply (hupdate libraryRecord statement hstatement).mpr
    decide
  · obtain ⟨statement, hstatement⟩ : ∃ statement,
        insert library libraryQuery.table [libraryRecord, libraryRecord] = .ok statement := ⟨_, rfl⟩
    use statement, hstatement
    apply (hplain hcolumns).2 _ statement hstatement

/-- A catalog with a table one of whose columns has a name that is no identifier. -/
def notes : Catalog :=
  .ofTables [.ofColumns "notes" [⟨"id", .int⟩, ⟨"text) VALUES ($1) --", .string⟩]]

/-- A column with such a name is written into the text of an insertion as it is, and the
rest of the text becomes a comment. -/
theorem insert_with_wild_column :
  Query.parsePath .standard "/notes" = .ok (.ofTable "notes")
    ∧ ∃ statement,
      insert notes "notes" [.ofMembers [("text) VALUES ($1) --", .string "a")]] = .ok statement
      ∧ statement.sql = "INSERT INTO notes (text) VALUES ($1) --) VALUES ($1) RETURNING id"
      ∧ "text) VALUES ($1) --" ∈ namesOf statement.command.fragments
      ∧ ¬ IsName "text) VALUES ($1) --"
  := by
  use by decide +kernel
  refine ⟨_, rfl, ?_, ?_, ?_⟩
  · decide +kernel
  · decide
  · decide

end TableGateway.Statement
