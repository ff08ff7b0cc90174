import TableGateway.Proofs.Sql.Naming
import TableGateway.Proofs.Sql.Scoping

/-!
# What the names in a statement are about

Each name in the text of a statement is part of the mention of a table or of a column, or
it is the label of a column, or it is the column `id` that a change returns. The tables and
the columns that a statement mentions have been found in the catalog, under the names in the
text. The column that a change returns has not been looked up.
-/

namespace TableGateway.Sql

/-- What names in the text of a statement are about: a table, a column with the table it is
qualified by, a label, or the column that a change returns. -/
inductive Mention where
  | table (name : String)
  | column (qualifier : Option String) (name : String)
  | label (name : String)
  | returned (name : String)
  deriving DecidableEq

/-- The names of a mention, as they stand in the text. -/
def Mention.names : Mention → List String
  | .table name => [name]
  | .column qualifier name => qualifier.toList ++ [name]
  | .label name => [name]
  | .returned name => [name]

/-! ### The mentions of the parts of a command -/

/-- The mention of the column that a reference is to. -/
def columnMention (column : ColumnRef) : Mention :=
  .column column.qualifier column.name

/-- The mentions of a predicate. Alternatives have the column once each. -/
def predicateMentions (predicate : Predicate) : List Mention :=
  if predicate.operator.isNullTest || predicate.operator.isMembership then
    [columnMention predicate.column]
  else predicate.arguments.map fun _ => columnMention predicate.column

/-- A predicate mentions nothing but its column. -/
theorem eq_of_mem_predicateMentions
    {predicate : Predicate} {mention : Mention} (h : mention ∈ predicateMentions predicate) :
  mention = columnMention predicate.column
  := by
  rw [predicateMentions] at h
  split at h
  · apply List.mem_singleton.mp h
  · obtain ⟨_, -, rfl⟩ := List.mem_map.mp h
    rfl

/-- The mentions of a column to return. -/
def selectedMentions (column : ColumnRef) : List Mention :=
  columnMention column :: column.label.toList.map .label

/-- The mentions of a join. -/
def joinMentions (join : Join) : List Mention :=
  [.table join.table, columnMention join.left, columnMention join.right]

/-- The mention of the column that is assigned to. -/
def assignmentMention (assignment : String × Nat) : Mention :=
  .column none assignment.1

/-- The mentions of a command, in the order of its text. -/
def Command.mentions : Command → List Mention
  | select columns table joins predicates _ _ =>
    columns.flatMap selectedMentions ++ [.table table] ++ joins.flatMap joinMentions
      ++ predicates.flatMap predicateMentions
  | insert table columns _ => [.table table] ++ columns.map (.column none) ++ [.returned "id"]
  | update table assignments predicates =>
    [.table table] ++ (assignments.map assignmentMention ++ predicates.flatMap predicateMentions)
      ++ [.returned "id"]
  | delete table predicates =>
    [.table table] ++ predicates.flatMap predicateMentions ++ [.returned "id"]

/-! ### The names of the mentions -/

/-- The names in the text of a column are those of its mention. -/
theorem namesOf_columnFragments (column : ColumnRef) :
  namesOf (columnFragments column) = (columnMention column).names
  := by
  rw [columnFragments, columnMention, Mention.names]
  cases column.qualifier <;> rfl

/-- The names in the text of a predicate are those of its mentions, as often as it repeats them. -/
theorem namesOf_predicateFragments (predicate : Predicate) :
  namesOf (predicateFragments predicate) = (predicateMentions predicate).flatMap Mention.names
  := by
  rw [predicateFragments, predicateMentions]
  split
  · rename_i hnull
    simp [hnull, Fragment.name?, namesOf_columnFragments]
  · split
    · rename_i hmembership
      simp [hmembership, argumentFragments, Fragment.name?, namesOf_columnFragments]
    · rename_i hnull hmembership
      split
      · rename_i argument hargument
        simp [hnull, hmembership, hargument, comparisonFragments, Fragment.name?,
          namesOf_columnFragments]
      · simp [hnull, hmembership, comparisonFragments, Fragment.name?, namesOf_columnFragments,
          List.flatMap_map, -List.map_const']

/-- The names in the text of a filter are those of the mentions of its predicates. -/
theorem namesOf_whereFragments (predicates : List Predicate) :
  namesOf (whereFragments predicates)
    = (predicates.flatMap predicateMentions).flatMap Mention.names
  := by
  rw [whereFragments, List.flatMap_assoc]
  split
  · rename_i hempty
    rw [List.isEmpty_iff.mp hempty]
    rfl
  · simp [Fragment.name?, namesOf_predicateFragments]

/-- The names in the text of a selected column are those of its mentions, with its label. -/
theorem namesOf_selectedFragments (column : ColumnRef) :
  namesOf (selectedFragments column) = (selectedMentions column).flatMap Mention.names
  := by
  rw [selectedFragments, selectedMentions]
  cases column.label with
  | none => simp [namesOf_columnFragments]
  | some label => simp [namesOf_columnFragments, Fragment.name?, Mention.names]

theorem namesOf_projectionFragments (columns : List ColumnRef) :
  namesOf (projectionFragments columns)
    = (columns.flatMap selectedMentions).flatMap Mention.names
  := by
  rw [projectionFragments, List.flatMap_assoc]
  split
  · rename_i hempty
    rw [List.isEmpty_iff.mp hempty]
    rfl
  · simp [namesOf_selectedFragments]

/-- The names in the text of a join are those of its mentions. -/
theorem namesOf_joinFragments (join : Join) :
  namesOf (joinFragments join) = (joinMentions join).flatMap Mention.names
  := by
  simp [joinFragments, joinMentions, namesOf_columnFragments, Fragment.name?, Mention.names]

theorem namesOf_boundFragments (bound : RowBound) (rows : Option Nat) :
  namesOf (boundFragments bound rows) = []
  := by
  cases bound <;> cases rows <;> rfl

theorem namesOf_tupleFragments (arguments : List Nat) :
  namesOf (tupleFragments arguments) = []
  := by
  simp [tupleFragments, argumentFragments, Fragment.name?]

theorem namesOf_assignmentFragments (assignment : String × Nat) :
  namesOf (assignmentFragments assignment) = (assignmentMention assignment).names
  := by
  simp [assignmentFragments, assignmentMention, Fragment.name?, Mention.names]

/-- The names in the text of a command are those of its mentions, in order. -/
theorem Command.namesOf_fragments (command : Command) :
  namesOf command.fragments = command.mentions.flatMap Mention.names
  := by
  cases command with
  | select columns table joins predicates limit offset =>
      simp [fragments, mentions, namesOf_projectionFragments, namesOf_joinFragments,
        namesOf_whereFragments, namesOf_boundFragments, Fragment.name?, Mention.names,
        List.flatMap_assoc]
  | insert table columns tuples =>
      simp [fragments, mentions, namesOf_tupleFragments, Fragment.name?, Mention.names,
        List.flatMap_map]
  | update table assignments predicates =>
      simp [fragments, mentions, namesOf_assignmentFragments, namesOf_whereFragments,
        Fragment.name?, Mention.names, List.flatMap_map]
  | delete table predicates =>
      simp [fragments, mentions, namesOf_whereFragments, Fragment.name?, Mention.names]

/-- The query whose tables the names of a command are looked up in. An insertion is into one
table, whatever the query is about beside it. -/
def Command.scope (query : Query) : Command → Query
  | insert table _ _ => .ofTable table
  | _ => query

end TableGateway.Sql

namespace TableGateway

open Outcome Sql

/-! ### Names that are found -/

/-- A table is found under its own name. -/
theorem Catalog.name_of_table?
    {catalog : Catalog} {name : String} {table : Table} (h : catalog.table? name = some table) :
  table.name = name
  := (table?_eq_some_iff.mp h).2

/-- A column is found under its own name. -/
theorem Catalog.name_of_column?
    {catalog : Catalog} {table name : String} {column : Column}
    (h : catalog.column? table name = some column) :
  column.name = name
  := by
  obtain ⟨found, -, hcolumn⟩ := column?_eq_some_iff.mp h
  apply Table.name_of_column? hcolumn

/-- A reference is looked up to a column of its name. -/
theorem Query.name_of_resolve
    {query : Query} {catalog : Catalog} {reference : ColumnRef} {column : Column}
    (h : query.resolve catalog reference = .ok column) :
  column.name = reference.name
  := by
  rw [resolve] at h
  split at h
  · apply Catalog.name_of_column? (resolveQualified_eq_ok_iff.mp h).2
  · have hcandidate : column ∈ query.candidates catalog reference.name := by
      rw [(resolveName_eq_ok_iff.mp h).2]
      apply List.mem_singleton_self
    obtain ⟨table, -, hcolumn⟩ := List.mem_filterMap.mp hcandidate
    apply Catalog.name_of_column? hcolumn

/-- The names under which a catalog has what a mention is about, when it is looked up for a
query. -/
inductive Sql.Mention.FoundAs (catalog : Catalog) (query : Query) : Mention → List String → Prop
  | table {name : String} {table : Table} (h : catalog.table? name = some table) :
    FoundAs catalog query (.table name) [table.name]
  | column {name : String} {column : Column}
      (h : query.resolve catalog ⟨none, name, none⟩ = .ok column) :
    FoundAs catalog query (.column none name) [column.name]
  | qualified {qualifier name : String} {table : Table} {column : Column}
      (htable : catalog.table? qualifier = some table)
      (h : query.resolve catalog ⟨some qualifier, name, none⟩ = .ok column) :
    FoundAs catalog query (.column (some qualifier) name) [table.name, column.name]

namespace Sql.Mention

variable {catalog : Catalog} {query : Query}

/-- What is found has the names in the text. -/
theorem FoundAs.eq_names
    {mention : Mention} {found : List String} (h : mention.FoundAs catalog query found) :
  found = mention.names
  := by
  cases h with
  | table h => rw [names, Catalog.name_of_table? h]
  | column h =>
      rw [names, Query.name_of_resolve h]
      rfl
  | qualified htable h =>
      rw [names, Catalog.name_of_table? htable, Query.name_of_resolve h]
      rfl

/-- A mention that is found has the names under which it is found. -/
theorem foundAs_names
    {mention : Mention} {found : List String} (h : mention.FoundAs catalog query found) :
  mention.FoundAs catalog query mention.names
  := by
  rw [← h.eq_names]
  apply h

theorem foundAs_table {name : String} {found : Table} (h : catalog.table? name = some found) :
  (table name).FoundAs catalog query [name]
  := foundAs_names (.table h)

/-- A column that is resolved is found under the names that stand in the text. -/
theorem foundAs_column
    {reference : ColumnRef} {found : Column} (h : query.resolve catalog reference = .ok found) :
  (columnMention reference).FoundAs catalog query (columnMention reference).names
  := by
  obtain ⟨qualifier, name, label⟩ := reference
  cases qualifier with
  | none => apply foundAs_names (.column h)
  | some qualifier =>
      obtain ⟨table, htable, -⟩ :=
        Catalog.column?_eq_some_iff.mp (Query.resolveQualified_eq_ok_iff.mp h).2
      apply foundAs_names (.qualified htable h)

/-- A mention that is accounted for: a table or a column that has been found, the label of a
column, or the column that a change returns. -/
def Known (catalog : Catalog) (query : Query) (mention : Mention) : Prop :=
  mention.FoundAs catalog query mention.names
    ∨ (∃ name, mention = .label name) ∨ mention = .returned "id"

/-- A column that is accounted for has been looked up. -/
theorem exists_resolve_of_known
    {reference : ColumnRef} (h : (columnMention reference).Known catalog query) :
  ∃ found, query.resolve catalog reference = .ok found
  := by
  obtain ⟨qualifier, name, label⟩ := reference
  rcases h with hfound | ⟨_, hlabel⟩ | hreturned
  · cases qualifier with
    | none =>
        cases hfound with
        | column h => exact ⟨_, h⟩
    | some qualifier =>
        cases hfound with
        | qualified htable h => exact ⟨_, h⟩
  · cases hlabel
  · cases hreturned

/-- All selected columns are known once they have been checked. -/
theorem known_selected
    {columns : List ColumnRef} (h : query.checkColumns catalog columns = .ok ()) :
  ∀ mention ∈ columns.flatMap selectedMentions, mention.Known catalog query
  := by
  intro mention hmention
  obtain ⟨column, hcolumn, hmention⟩ := List.mem_flatMap.mp hmention
  rcases List.mem_cons.mp hmention with rfl | hlabel
  · left
    obtain ⟨found, hfound⟩ := Query.checkColumns_eq_ok_iff.mp h column hcolumn
    apply foundAs_column hfound
  · right
    left
    obtain ⟨label, -, rfl⟩ := List.mem_map.mp hlabel
    use label

/-- All columns of joins are known once they have been checked. -/
theorem known_joins
    {scope : List String} {joins : List Join}
    (h : query.checkJoins catalog scope joins = .ok ()) :
  ∀ mention ∈ joins.flatMap joinMentions, mention.Known catalog query
  := by
  induction joins generalizing scope with
  | nil => simp
  | cons join rest ih =>
      simp only [Query.checkJoins, bind_eq_ok_iff, check_eq_ok_iff,
        Catalog.requireTable_eq_ok_iff] at h
      obtain ⟨table, htable, -, left, hleft, right, hright, hrest⟩ := h
      rw [List.flatMap_cons, List.forall_mem_append]
      constructor
      · simp only [joinMentions, List.forall_mem_cons]
        use .inl (foundAs_table htable), .inl (foundAs_column hleft), .inl (foundAs_column hright)
        simp
      · apply ih hrest

/-- The columns that conditions are compared with have been found. -/
theorem known_predicates
    {first : Nat} {conditions : List Condition} {columns : List Column}
    (h : Statement.Compares catalog query conditions columns) :
  ∀ mention ∈ (Statement.predicates first conditions).flatMap predicateMentions,
    mention.Known catalog query
  := by
  induction h generalizing first with
  | nil => simp [Statement.predicates]
  | cons hcolumn _ ih =>
      rw [Statement.predicates, List.flatMap_cons, List.forall_mem_append]
      constructor
      · intro mention hmention
        left
        rw [eq_of_mem_predicateMentions hmention]
        apply foundAs_column hcolumn
      · apply ih

/-- The columns of records have been found in the one table of the query. -/
theorem known_columns
    {table : Table} {names : List String} {columns : List Column}
    (htables : query.tables = [query.table]) (htable : catalog.table? query.table = some table)
    (h : table.HasColumns names columns) :
  ∀ mention ∈ names.map (column none), mention.Known catalog query
  := by
  rw [List.forall_mem_map]
  intro name hname
  left
  have hcolumn : ∃ column, table.column? name = some column :=
    exists_forall₂_iff.mp ⟨columns, h⟩ name hname
  obtain ⟨column, hcolumn⟩ := hcolumn
  have hresolve : query.resolve catalog ⟨none, name, none⟩ = .ok column := by
    apply Query.resolveName_eq_ok_iff.mpr
    use ⟨table, htable⟩
    simp [Query.candidates, htables, Catalog.column?, htable, hcolumn]
  apply foundAs_column hresolve

end Sql.Mention

namespace Statement

open Mention

/-! ### The mentions of statements -/

/-- A statement whose text is put together of fragments, with the names of its mentions for
names. -/
structure IsAccounted (statement : Statement) : Prop where
  text : statement.sql = textOf statement.command.fragments
  names : namesOf statement.command.fragments = statement.command.mentions.flatMap Mention.names

theorem isAccounted (statement : Statement) :
  statement.IsAccounted
  where
  text := (Command.textOf_fragments statement.command).symm
  names := Command.namesOf_fragments statement.command

/-- A statement that is built from a query, with records for an insertion or a change. -/
inductive BuiltFrom (catalog : Catalog) (query : Query) : Statement → Prop
  | select {statement : Statement} (h : select catalog query = .ok statement) :
    BuiltFrom catalog query statement
  | insert {records : List Record} {statement : Statement}
      (h : insert catalog query.table records = .ok statement) :
    BuiltFrom catalog query statement
  | update {record : Record} {statement : Statement}
      (h : update catalog query record = .ok statement) :
    BuiltFrom catalog query statement
  | delete {statement : Statement} (h : delete catalog query = .ok statement) :
    BuiltFrom catalog query statement

variable {catalog : Catalog} {query : Query} {statement : Statement}

/-- All mentions of a statement are accounted for. -/
theorem BuiltFrom.known (h : BuiltFrom catalog query statement) (hquery : query.WellFormed) :
  ∀ mention ∈ statement.command.mentions,
    mention.Known catalog (statement.command.scope query)
  := by
  have hid : (returned "id").Known catalog (statement.command.scope query) := .inr (.inr rfl)
  cases h with
  | select h =>
      obtain ⟨⟨table, htable⟩, hjoins, hcolumns, compared, hcompared, rfl⟩ := select_eq_ok_iff.mp h
      simp only [Command.mentions, List.forall_mem_append, List.forall_mem_singleton]
      use ⟨⟨known_selected hcolumns, .inl (foundAs_table htable)⟩, known_joins hjoins⟩
      apply known_predicates hcompared
  | insert h =>
      obtain ⟨table, htable, first, rest, rfl, -, columns, hcolumns, rows, -, rfl⟩ :=
        insert_eq_ok_iff.mp h
      simp only [Command.mentions, List.forall_mem_append, List.forall_mem_singleton]
      use ⟨.inl (foundAs_table htable), known_columns rfl htable hcolumns⟩
  | @update record _ h =>
      obtain ⟨⟨-, hjoins⟩, table, htable, -, assigned, hassigned, compared, hcompared, rfl⟩ :=
        update_eq_ok_iff.mp h
      simp only [Command.mentions, List.forall_mem_append, List.forall_mem_singleton]
      have hassignments := known_columns (hquery.tables_of_joins_eq_nil hjoins) htable hassigned
      rw [← record.map_fst_zip_range' 1, List.map_map] at hassignments
      use ⟨.inl (foundAs_table htable), hassignments, known_predicates hcompared⟩
  | delete h =>
      obtain ⟨-, ⟨table, htable⟩, compared, hcompared, rfl⟩ := delete_eq_ok_iff.mp h
      simp only [Command.mentions, List.forall_mem_append, List.forall_mem_singleton]
      use ⟨.inl (foundAs_table htable), known_predicates hcompared⟩

end Statement

end TableGateway
