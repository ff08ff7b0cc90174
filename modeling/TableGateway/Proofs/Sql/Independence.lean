import TableGateway.Proofs.Sql.Building

/-!
# Texts and values

The text of a statement does not depend on values: neither on those of a query's
conditions, apart from how many each condition has, nor on those of a record. Two requests
that differ only in such values are refused with the same error, or their statements have
the same text and arguments of the same types.

Each function that builds a part of a statement is taken in turn: what shows of its
outcome, which is the types of arguments but not their values, is the same for both
requests.
-/

namespace TableGateway

open Outcome

/-! ### Requests of one shape -/

/-- Two conditions that differ in nothing but the values that a column is compared with. -/
structure Condition.SameShape (condition other : Condition) : Prop where
  column : condition.column = other.column
  operator : condition.operator = other.operator
  length : condition.values.length = other.values.length

/-- Two queries that differ in nothing but the values of their conditions. -/
structure Query.SameShape (query other : Query) : Prop where
  table : query.table = other.table
  tables : query.tables = other.tables
  columns : query.columns = other.columns
  conditions : List.Forall₂ Condition.SameShape query.conditions other.conditions
  joins : query.joins = other.joins
  limit : query.limit = other.limit
  offset : query.offset = other.offset

/-- Two records that have values for the same names. -/
def Record.SameShape (record other : Record) : Prop :=
  ∀ name, name ∈ record.names ↔ name ∈ other.names

/-- Records of one shape list their names in one order. -/
theorem Record.SameShape.names_eq {record other : Record} (h : record.SameShape other) :
  record.names = other.names
  := by
  have hsorted : ∀ record : Record, record.names.Pairwise (· < ·) := by
    intro record
    apply List.pairwise_map.mpr record.sorted
  apply List.Perm.eq_of_pairwise _ (hsorted record) (hsorted other)
  · apply (List.perm_ext_iff_of_nodup record.nodup_names other.nodup_names).mpr h
  · intro first second _ _ hlt hgt
    cases String.lt_irrefl first (String.lt_trans hlt hgt)

/-- Records of one shape give values to the same names. -/
theorem Record.SameShape.isSome_get? {record other : Record} (h : record.SameShape other)
    (name : String) :
  (record.get? name).isSome = (other.get? name).isSome
  := by
  rw [Bool.eq_iff_iff, Record.isSome_get?, Record.isSome_get?]
  apply h

/-- The condition with another text in place of each of its values. -/
def Condition.overwrite (text : String) (condition : Condition) : Condition where
  column := condition.column
  operator := condition.operator
  values := condition.values.map fun _ => text
  valid := by rw [List.isEmpty_map, condition.valid]

/-- The query with another text in place of each value of its conditions. -/
def Query.overwrite (text : String) (query : Query) : Query :=
  { query with conditions := query.conditions.map (Condition.overwrite text) }

/-- A query keeps its shape when its values are overwritten. -/
theorem Query.sameShape_overwrite (text : String) (query : Query) :
  query.SameShape (query.overwrite text)
  := by
  constructor
  · rfl
  · rfl
  · rfl
  · apply List.forall₂_map_right_iff.mpr
    apply List.forall₂_same.mpr
    intro condition _
    constructor
    · rfl
    · rfl
    · symm
      apply List.length_map
  · rfl
  · rfl
  · rfl

/-! ### Names in scope -/

namespace Query.SameShape

variable {query other : Query} (h : query.SameShape other) (catalog : Catalog)

include h

/-- Columns are resolved alike for queries of one shape. -/
theorem resolve_eq (column : ColumnRef) :
  query.resolve catalog column = other.resolve catalog column
  := by
  simp only [resolve, resolveQualified, resolveName, candidates, includesTable, h.table, h.tables]
  rfl

/-- Joins are checked alike for queries of one shape. -/
theorem checkJoins_eq (scope : List String) (joins : List Join) :
  query.checkJoins catalog scope joins = other.checkJoins catalog scope joins
  := by
  induction joins generalizing scope with
  | nil => rfl
  | cons join rest ih =>
      simp only [checkJoins, connects, h.table, h.resolve_eq, ih]
      rfl

/-- Selected columns are checked alike for queries of one shape. -/
theorem checkColumns_eq (columns : List ColumnRef) :
  query.checkColumns catalog columns = other.checkColumns catalog columns
  := by
  induction columns with
  | nil => rfl
  | cons column rest ih => simp only [checkColumns, h.resolve_eq, ih]

end Query.SameShape

namespace Statement

/-! ### Conditions -/

/-- The types of arguments. -/
def typesOf (arguments : List Argument) : List ColumnType :=
  arguments.map Argument.type

theorem typesOf_append (arguments others : List Argument) :
  typesOf (arguments ++ others) = typesOf arguments ++ typesOf others
  := List.map_append

/-- Conditions of one shape make the same predicates. -/
theorem predicates_congr
    {conditions others : List Condition}
    (h : List.Forall₂ Condition.SameShape conditions others) (first : Nat) :
  predicates first conditions = predicates first others
  := by
  induction h generalizing first with
  | nil => rfl
  | cons hcondition _ ih =>
      rw [predicates, predicates, hcondition.column, hcondition.operator, hcondition.length, ih]

theorem isEmpty_congr
    {conditions others : List Condition}
    (h : List.Forall₂ Condition.SameShape conditions others) :
  conditions.isEmpty = others.isEmpty
  := by
  cases h <;> rfl

/-- A condition has arguments of one type, as many as it has values. -/
theorem typesOf_conditionArguments (column : Column) (condition : Condition) :
  typesOf (conditionArguments column condition)
    = List.replicate condition.values.length column.type
  := by
  rw [typesOf, conditionArguments, List.map_map]
  apply List.map_const'

/-- The arguments of conditions of one shape have the same types, or the same error. -/
theorem filterArguments_congr
    {query other : Query} (hquery : query.SameShape other) (catalog : Catalog)
    {conditions others : List Condition}
    (h : List.Forall₂ Condition.SameShape conditions others) :
  typesOf <$> filterArguments catalog query conditions
    = typesOf <$> filterArguments catalog other others
  := by
  induction h with
  | nil => rfl
  | cons hcondition _ ih =>
      rw [filterArguments, filterArguments, hcondition.column, hquery.resolve_eq]
      apply map_bind_congr_right
      intro column
      apply map_bind_congr ih
      intro arguments others harguments
      apply congrArg Except.ok
      rw [typesOf_append, typesOf_append, typesOf_conditionArguments, typesOf_conditionArguments,
        hcondition.length, harguments]

/-! ### Records -/

/-- Records of one shape have the same columns, or fail with the same error. -/
theorem recordColumns_congr {record other : Record} (h : record.SameShape other) (table : Table)
    (change : Change) :
  recordColumns table record change = recordColumns table other change
  := by
  have hempty : record.fields.isEmpty = other.fields.isEmpty := by
    have hnames := congrArg List.isEmpty h.names_eq
    rw [Record.names, List.isEmpty_map, Record.names, List.isEmpty_map] at hnames
    apply hnames
  rw [recordColumns, recordColumns, hempty, h.names_eq]

/-- The types of the arguments that a record gives to columns. -/
theorem typesOf_filterMap_givenArgument? (record : Record) (columns : List Column) :
  typesOf (columns.filterMap (givenArgument? record))
    = (columns.filter fun column => (record.get? column.name).isSome).map Column.type
  := by
  induction columns with
  | nil => rfl
  | cons column rest ih =>
      cases hvalue : record.get? column.name with
      | none => simpa [givenArgument?, hvalue] using ih
      | some value => simpa [givenArgument?, hvalue, typesOf] using ih

/-- The arguments of a row have the types of the columns. -/
theorem typesOf_of_rowOf
    {columns : List Column} {record : Record} {row : List Argument} (h : RowOf columns record row) :
  typesOf row = columns.map Column.type
  := by
  obtain ⟨-, hrow⟩ := h
  induction hrow with
  | nil => rfl
  | cons hargument _ ih =>
      obtain ⟨value, -, rfl⟩ := Option.map_eq_some_iff.mp hargument
      rw [List.map_cons, ← ih]
      rfl

/-- The arguments that records of one shape give to columns have the same types, unless they
give others. -/
theorem recordArguments?_congr {record other : Record} (h : record.SameShape other)
    (columns : List Column) :
  (recordArguments? columns record).map typesOf = (recordArguments? columns other).map typesOf
  := by
  have hexists : (∃ row, RowOf columns record row) ↔ ∃ row, RowOf columns other row := by
    rw [exists_rowOf_iff, exists_rowOf_iff, ← Record.length_names, h.names_eq,
      Record.length_names]
    simp only [h.isSome_get?]
  cases hrow : recordArguments? columns record with
  | none =>
      cases hother : recordArguments? columns other with
      | none => rfl
      | some row =>
          obtain ⟨_, hrecord⟩ := hexists.mpr ⟨row, recordArguments?_eq_some_iff.mp hother⟩
          rw [recordArguments?_eq_some_iff.mpr hrecord] at hrow
          cases hrow
  | some row =>
      have hrecord := recordArguments?_eq_some_iff.mp hrow
      obtain ⟨row', hother⟩ := hexists.mp ⟨row, hrecord⟩
      rw [recordArguments?_eq_some_iff.mpr hother, Option.map_some, Option.map_some,
        typesOf_of_rowOf hrecord, typesOf_of_rowOf hother]

/-- The arguments of rows of one shape have the same types, or the same error. -/
theorem rowArguments_congr
    {records others : List Record} (h : List.Forall₂ Record.SameShape records others)
    (columns : List Column) (start : Nat) :
  typesOf <$> rowArguments columns start records = typesOf <$> rowArguments columns start others
  := by
  induction h generalizing start with
  | nil => rfl
  | @cons record other _ _ hrecord _ ih =>
      have hrow := recordArguments?_congr hrecord columns
      rw [rowArguments, rowArguments]
      cases harguments : recordArguments? columns record with
      | none =>
          rw [harguments, Option.map_none, eq_comm, Option.map_eq_none_iff] at hrow
          rw [hrow]
      | some row =>
          rw [harguments, Option.map_some, eq_comm, Option.map_eq_some_iff] at hrow
          obtain ⟨row', hrow', htypes⟩ := hrow
          rw [hrow']
          apply map_bind_congr (ih (start + 1))
          intro arguments arguments' hsame
          apply congrArg Except.ok
          rw [typesOf_append, typesOf_append, htypes, hsame]

/-! ### Statements -/

/-- What shows of a statement without the values of its arguments: its text and their
types. -/
def outline (statement : Statement) : String × List ColumnType :=
  (statement.sql, statement.types)

/-- Selections for queries of one shape have one outline. -/
theorem select_congr {query other : Query} (h : query.SameShape other) (catalog : Catalog) :
  outline <$> select catalog query = outline <$> select catalog other
  := by
  rw [select_eq, select_eq, h.table, h.joins, h.columns, h.limit, h.offset,
    predicates_congr h.conditions]
  apply map_bind_congr_right
  intro table
  rw [h.checkJoins_eq]
  apply map_bind_congr_right
  intro _
  rw [h.checkColumns_eq]
  apply map_bind_congr_right
  intro _
  apply map_bind_congr (filterArguments_congr h catalog h.conditions)
  intro arguments others harguments
  apply congrArg Except.ok
  apply congrArg (Prod.mk _) harguments

theorem checkChange_congr {query other : Query} (h : query.SameShape other) (change : Change) :
  checkChange query change = checkChange other change
  := by
  rw [checkChange, checkChange, isEmpty_congr h.conditions, h.joins]

/-- Deletions for queries of one shape have one outline. -/
theorem delete_congr {query other : Query} (h : query.SameShape other) (catalog : Catalog) :
  outline <$> delete catalog query = outline <$> delete catalog other
  := by
  rw [delete_eq, delete_eq, checkChange_congr h, h.table, predicates_congr h.conditions]
  apply map_bind_congr_right
  intro _
  apply map_bind_congr_right
  intro table
  apply map_bind_congr (filterArguments_congr h catalog h.conditions)
  intro arguments others harguments
  apply congrArg Except.ok
  apply congrArg (Prod.mk _) harguments

/-- Updates for queries and records of one shape have one outline. -/
theorem update_congr
    {query other : Query} (h : query.SameShape other) {record record' : Record}
    (hrecord : record.SameShape record') (catalog : Catalog) :
  outline <$> update catalog query record = outline <$> update catalog other record'
  := by
  rw [update_eq, update_eq, checkChange_congr h, h.table]
  apply map_bind_congr_right
  intro _
  apply map_bind_congr_right
  intro table
  rw [recordColumns_congr hrecord]
  apply map_bind_congr_right
  intro columns
  simp only [predicates_congr h.conditions]
  apply map_bind_congr (filterArguments_congr h catalog h.conditions)
  intro arguments others harguments
  apply congrArg Except.ok
  apply congrArg (Prod.mk _)
  change typesOf _ = typesOf _
  rw [typesOf_append, typesOf_append, typesOf_filterMap_givenArgument?, typesOf_filterMap_givenArgument?, harguments]
  simp only [hrecord.isSome_get?]

/-- Insertions of records of one shape have one outline. -/
theorem insert_congr
    {records others : List Record} (h : List.Forall₂ Record.SameShape records others)
    (catalog : Catalog) (name : String) :
  outline <$> insert catalog name records = outline <$> insert catalog name others
  := by
  cases h with
  | nil => rfl
  | @cons first first' _ _ hfirst hrest =>
      rw [insert_cons, insert_cons]
      simp only [recordColumns_congr hfirst, List.length_cons, hrest.length_eq]
      apply map_bind_congr_right
      intro table
      apply map_bind_congr_right
      intro columns
      apply map_bind_congr (rowArguments_congr (List.Forall₂.cons hfirst hrest) columns 0)
      intro arguments others harguments
      apply congrArg Except.ok
      apply congrArg (Prod.mk _) harguments

/-- Queries that differ in nothing but the values of their conditions, and records that have
values for the same names, have the same error or statements of the same text, whose
arguments have the same types. -/
theorem outline_independent_of_values
    (catalog : Catalog) {query other : Query} (hquery : query.SameShape other) :
  outline <$> select catalog query = outline <$> select catalog other
    ∧ outline <$> delete catalog query = outline <$> delete catalog other
    ∧ (∀ record record' : Record, record.SameShape record' →
      outline <$> update catalog query record = outline <$> update catalog other record')
    ∧ ∀ (table : String) (records others : List Record),
      List.Forall₂ Record.SameShape records others →
      outline <$> insert catalog table records = outline <$> insert catalog table others
  := by
  constructor
  · apply select_congr hquery
  constructor
  · apply delete_congr hquery
  constructor
  · intro record record' hrecord
    apply update_congr hquery hrecord
  · intro table records others hrecords
    apply insert_congr hrecords

/-- A record of the library with values that look like parts of a statement. -/
def forgedRecord : Record :=
  .ofMembers [("title", .object []), ("year", .string "1; DROP TABLE books")]

theorem outline_independent_of_values_library :
  libraryRecord.SameShape forgedRecord
    ∧ ∃ query, libraryQuery.SameShape query ∧ query ≠ libraryQuery
    ∧ outline <$> select library libraryQuery = outline <$> select library query
    ∧ outline <$> delete library libraryQuery = outline <$> delete library query
    ∧ outline <$> update library libraryQuery libraryRecord
      = outline <$> update library query forgedRecord
    ∧ outline <$> insert library "books" [libraryRecord, forgedRecord]
      = outline <$> insert library "books" [forgedRecord, libraryRecord]
  := by
  have hnames : libraryRecord.names = forgedRecord.names := by
    decide
  have hrecord : libraryRecord.SameShape forgedRecord := by
    intro name
    rw [hnames]
  have hforged : forgedRecord.SameShape libraryRecord := by
    intro name
    rw [hnames]
  have hquery := Query.sameShape_overwrite "0) OR $1 --" libraryQuery
  obtain ⟨hselect, hdelete, hupdate, hinsert⟩ := outline_independent_of_values library hquery
  use hrecord, libraryQuery.overwrite "0) OR $1 --", hquery, by decide, hselect, hdelete,
    hupdate libraryRecord forgedRecord hrecord
  apply hinsert
  apply List.Forall₂.cons hrecord
  apply List.Forall₂.cons hforged List.Forall₂.nil

end Statement

end TableGateway
