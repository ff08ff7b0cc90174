import TableGateway.Proofs.Sql.Building
import TableGateway.Proofs.Sql.Placeholder

/-!
# The numbering of placeholders

The placeholders of a statement are numbered from one in the order in which they stand in
its text, and there is one of them for each argument.

A command lists the numbers of its arguments. Its text has just these numbers, which is a
matter of how texts are put together, and they are the numbers from one on, which is a
matter of how the builders count. For the text it matters that names are without dollar
signs: those of a query are identifiers, and those of a record's columns stand in the
catalog.
-/

namespace TableGateway.Sql

/-! ### Texts without placeholders -/

/-- Identifiers have no dollar sign. -/
theorem withoutDollar_of_isName {name : String} (h : IsName name) :
  WithoutDollar name
  := by
  intro hmem
  cases h.isIdentifierChar '$' hmem

/-- No operator is written with a dollar sign. -/
theorem withoutDollar_sql (operator : Operator) :
  WithoutDollar operator.sql
  := by
  cases operator <;> decide

theorem withoutDollar_kind (kind : JoinKind) :
  WithoutDollar kind.sql
  := by
  cases kind <;> decide

/-- Plain columns are written without dollar signs. -/
theorem withoutDollar_columnText {column : ColumnRef} (h : column.IsPlain) :
  WithoutDollar column.text
  := by
  rw [ColumnRef.text]
  split
  · rename_i qualifier hqualifier
    apply WithoutDollar.append
    · apply WithoutDollar.append
      · apply withoutDollar_of_isName (h.qualifier qualifier hqualifier)
      · decide
    · apply withoutDollar_of_isName h.name
  · apply withoutDollar_of_isName h.name

theorem withoutDollar_selectedText {column : ColumnRef} (h : column.IsPlain) :
  WithoutDollar (selectedText column)
  := by
  rw [selectedText]
  split
  · rename_i label hlabel
    apply WithoutDollar.append
    · apply (withoutDollar_columnText h).append
      decide
    · apply withoutDollar_of_isName (h.label label hlabel)
  · apply withoutDollar_columnText h

/-- Selected columns are written without dollar signs. -/
theorem withoutDollar_projectionText {columns : List ColumnRef}
    (h : ∀ column ∈ columns, column.IsPlain) :
  WithoutDollar (projectionText columns)
  := by
  rw [projectionText]
  split
  · decide
  · apply WithoutDollar.intercalate
    · decide
    · rw [List.forall_mem_map]
      intro column hcolumn
      apply withoutDollar_selectedText (h column hcolumn)

/-- Joins are written without dollar signs. -/
theorem withoutDollar_joinText {join : Join} (h : join.IsPlain) :
  WithoutDollar (joinText join)
  := by
  simp only [joinText, withoutDollar_append_iff]
  use ⟨⟨⟨⟨⟨⟨by decide, withoutDollar_kind join.kind⟩, by decide⟩, withoutDollar_of_isName h.table⟩,
    by decide⟩, withoutDollar_columnText h.left.toIsPlain⟩, by decide⟩
  apply withoutDollar_columnText h.right.toIsPlain

theorem withoutDollar_joinTexts {joins : List Join} (h : ∀ join ∈ joins, join.IsPlain) :
  WithoutDollar (String.join (joins.map joinText))
  := by
  rw [WithoutDollar, String.toList_join, List.mem_flatMap]
  rintro ⟨text, htext, hmem⟩
  obtain ⟨join, hjoin, rfl⟩ := List.mem_map.mp htext
  apply withoutDollar_joinText (h join hjoin) hmem

/-- The numbers of bounds stand in the text without dollar signs. -/
theorem withoutDollar_boundText
    {keyword : String} (h : WithoutDollar keyword) (rows : Option Nat) :
  WithoutDollar (boundText keyword rows)
  := by
  cases rows with
  | none =>
      rw [boundText]
      decide
  | some rows =>
      simp only [boundText, withoutDollar_append_iff]
      use ⟨⟨by decide, h⟩, by decide⟩
      apply withoutDollar_natText

/-- The text of a selection up to its conditions has no dollar sign. -/
theorem withoutDollar_selection
    {columns : List ColumnRef} (hcolumns : ∀ column ∈ columns, column.IsPlain)
    {table : String} (htable : WithoutDollar table)
    {joins : List Join} (hjoins : ∀ join ∈ joins, join.IsPlain) :
  WithoutDollar ("SELECT " ++ projectionText columns ++ " FROM " ++ table
    ++ String.join (joins.map joinText))
  := by
  simp only [withoutDollar_append_iff]
  use ⟨⟨⟨by decide, withoutDollar_projectionText hcolumns⟩, by decide⟩, htable⟩
  apply withoutDollar_joinTexts hjoins

/-- Nor has its text after them. -/
theorem withoutDollar_bounds (limit offset : Option Nat) :
  WithoutDollar (boundText "LIMIT" limit ++ boundText "OFFSET" offset)
  := by
  apply WithoutDollar.append
  · apply withoutDollar_boundText (by decide)
  · apply withoutDollar_boundText (by decide)

/-! ### Texts with placeholders -/

/-- The numbers after dollar signs in listed placeholders are those of the placeholders. -/
theorem hasNumbers_placeholders (arguments : List Nat) :
  HasNumbers (",".intercalate (arguments.map placeholder)) arguments
  := by
  have h := HasNumbers.intercalate "," (by decide) (by decide) (by decide)
    (fun n (_ : n ∈ arguments) => hasNumbers_placeholder n)
  rw [List.flatMap_singleton'] at h
  apply h

/-- The numbers after dollar signs in a tuple are its arguments. -/
theorem hasNumbers_tupleText (arguments : List Nat) :
  HasNumbers (tupleText arguments) arguments
  := by
  rw [tupleText]
  apply HasNumbers.append_right
  · apply HasNumbers.append_left (by decide)
    apply hasNumbers_placeholders
  · decide
  · decide

/-- An assignment has one number, if the name of its column has no dollar sign. -/
theorem hasNumbers_assignmentText {assignment : String × Nat} (h : WithoutDollar assignment.1) :
  HasNumbers (assignmentText assignment) [assignment.2]
  := by
  rw [assignmentText]
  apply HasNumbers.append_left
  · apply h.append
    decide
  · apply hasNumbers_placeholder

/-- A comparison has one number. -/
theorem hasNumbers_comparison {predicate : Predicate}
    (h : predicate.column.IsPlain) (argument : Nat) :
  HasNumbers (predicate.comparison argument) [argument]
  := by
  rw [Predicate.comparison]
  apply HasNumbers.append_left
  · simp only [withoutDollar_append_iff]
    use ⟨⟨withoutDollar_columnText h, by decide⟩, withoutDollar_sql predicate.operator⟩
    decide
  · apply hasNumbers_placeholder

/-- A predicate has the numbers of its arguments, whichever way its operator is written. -/
theorem hasNumbers_predicateText {predicate : Predicate} (h : predicate.IsPlain) :
  HasNumbers predicate.text predicate.arguments
  := by
  have hstart : WithoutDollar (predicate.column.text ++ " " ++ predicate.operator.sql) := by
    simp only [withoutDollar_append_iff]
    use ⟨withoutDollar_columnText h.column, by decide⟩
    apply withoutDollar_sql
  rw [Predicate.text]
  split
  · rename_i hnull
    have hempty := h.arguments
    rw [hnull, List.isEmpty_iff] at hempty
    rw [hempty]
    apply HasNumbers.of_withoutDollar hstart
  · split
    · apply HasNumbers.append_right
      · apply HasNumbers.append_left
        · apply hstart.append
          decide
        · apply hasNumbers_placeholders
      · decide
      · decide
    · split
      · rename_i argument hargument
        rw [hargument]
        apply hasNumbers_comparison h.column
      · apply HasNumbers.append_right
        · apply HasNumbers.append_left (by decide)
          have hor := HasNumbers.intercalate " OR " (by decide) (by decide)
            (by decide)
            (fun n (_ : n ∈ predicate.arguments) => hasNumbers_comparison h.column n)
          rw [List.flatMap_singleton'] at hor
          apply hor
        · decide
        · decide

/-- The numbers after dollar signs in a filter are the arguments of its predicates. -/
theorem hasNumbers_whereText {predicates : List Predicate}
    (h : ∀ predicate ∈ predicates, predicate.IsPlain) :
  HasNumbers (whereText predicates) (predicates.flatMap Predicate.arguments)
  := by
  rw [whereText]
  split
  · rename_i hempty
    rw [List.isEmpty_iff] at hempty
    subst hempty
    apply HasNumbers.of_withoutDollar
    decide
  · apply HasNumbers.append_left (by decide)
    apply HasNumbers.intercalate " AND " (by decide) (by decide) (by decide)
    intro predicate hpredicate
    apply hasNumbers_predicateText (h predicate hpredicate)

/-- A filter does not begin with a digit. -/
theorem endsNumber_whereText (predicates : List Predicate) :
  EndsNumber (whereText predicates).toList
  := by
  rw [whereText]
  split
  · decide
  · rw [String.toList_append]
    apply EndsNumber.append_of_ne_nil
    · decide
    · decide

theorem endsNumber_boundText (keyword : String) (rows : Option Nat) :
  EndsNumber (boundText keyword rows).toList
  := by
  cases rows with
  | none =>
      rw [boundText]
      decide
  | some rows =>
      simp only [boundText, String.toList_append, List.append_assoc]
      apply EndsNumber.append_of_ne_nil
      · decide
      · decide

/-! ### Commands -/

/-- The numbers of the arguments of a command, in the order of its parts. -/
def Command.numbers : Command → List Nat
  | select _ _ _ predicates _ _ => predicates.flatMap Predicate.arguments
  | insert _ _ tuples => tuples.flatten
  | update _ assignments predicates =>
    assignments.map Prod.snd ++ predicates.flatMap Predicate.arguments
  | delete _ predicates => predicates.flatMap Predicate.arguments

/-- A command whose names are without dollar signs, and whose null tests have no
arguments. -/
def Command.IsPlain : Command → Prop
  | select columns table joins predicates _ _ =>
    (∀ column ∈ columns, column.IsPlain) ∧ WithoutDollar table
      ∧ (∀ join ∈ joins, join.IsPlain) ∧ ∀ predicate ∈ predicates, predicate.IsPlain
  | insert table columns _ => WithoutDollar table ∧ ∀ column ∈ columns, WithoutDollar column
  | update table assignments predicates =>
    WithoutDollar table ∧ (∀ assignment ∈ assignments, WithoutDollar assignment.1)
      ∧ ∀ predicate ∈ predicates, predicate.IsPlain
  | delete table predicates => WithoutDollar table ∧ ∀ predicate ∈ predicates, predicate.IsPlain

/-- The text of a command has the numbers of its arguments, in order. -/
theorem hasNumbers_commandText {command : Command} (h : command.IsPlain) :
  HasNumbers command.text command.numbers
  := by
  cases command with
  | select columns table joins predicates limit offset =>
      obtain ⟨hcolumns, htable, hjoins, hpredicates⟩ := h
      rw [Command.text_select, Command.numbers, String.append_assoc]
      apply HasNumbers.append_right
      · apply HasNumbers.append_left
        · apply withoutDollar_selection hcolumns htable hjoins
        · apply hasNumbers_whereText hpredicates
      · apply withoutDollar_bounds
      · rw [String.toList_append]
        apply EndsNumber.append
        · apply endsNumber_boundText
        · apply endsNumber_boundText
  | insert table columns tuples =>
      obtain ⟨htable, hcolumns⟩ := h
      rw [Command.text_insert, Command.numbers]
      apply HasNumbers.append_right
      · apply HasNumbers.append_left
        · simp only [withoutDollar_append_iff]
          use ⟨⟨⟨by decide, htable⟩, by decide⟩, WithoutDollar.intercalate (by decide) hcolumns⟩
          decide
        · have htuples := HasNumbers.intercalate "," (by decide) (by decide)
            (by decide) (fun tuple (_ : tuple ∈ tuples) => hasNumbers_tupleText tuple)
          rw [List.flatMap_id'] at htuples
          apply htuples
      · decide
      · decide
  | update table assignments predicates =>
      obtain ⟨htable, hassignments, hpredicates⟩ := h
      rw [Command.text_update, Command.numbers]
      apply HasNumbers.append_right
      · apply HasNumbers.append
        · apply HasNumbers.append_left
          · simp only [withoutDollar_append_iff]
            use ⟨by decide, htable⟩
            decide
          · have hset := HasNumbers.intercalate ", " (by decide) (by decide)
              (by decide) (fun assignment hassignment =>
                hasNumbers_assignmentText (hassignments assignment hassignment))
            rw [← List.map_eq_flatMap] at hset
            apply hset
        · apply hasNumbers_whereText hpredicates
        · apply endsNumber_whereText
      · decide
      · decide
  | delete table predicates =>
      obtain ⟨htable, hpredicates⟩ := h
      rw [Command.text_delete, Command.numbers]
      apply HasNumbers.append_right
      · apply HasNumbers.append_left
        · apply WithoutDollar.append (by decide) htable
        · apply hasNumbers_whereText hpredicates
      · decide
      · decide

end TableGateway.Sql

namespace TableGateway.Statement

open Sql

/-! ### Counting -/

/-- The tuples of rows are numbered one row after the other. -/
theorem flatten_tuples (rows width : Nat) :
  (tuples rows width).flatten = List.range' 1 (rows * width)
  := by
  rw [tuples]
  induction rows with
  | zero => simp
  | succ rows ih =>
      rw [List.range_succ, List.map_append, List.flatten_append, ih, List.map_singleton,
        List.flatten_singleton, Nat.add_comm (rows * width), List.range'_append_1, Nat.succ_mul]

/-- Names numbered from a first number on have consecutive numbers. -/
theorem map_snd_zip_range' (names : List String) (first : Nat) :
  (names.zip (List.range' first names.length)).map Prod.snd = List.range' first names.length
  := by
  apply List.map_snd_zip
  apply Nat.le_of_eq List.length_range'

/-! ### Statements -/

/-- A statement with `count` arguments, whose placeholders are numbered from one to `count`
in the order in which they stand in its text. -/
structure IsNumbered (statement : Statement) (count : Nat) : Prop where
  numbers : dollarNumbers statement.sql.toList = (List.range' 1 count).map some
  values : statement.values.length = count
  types : statement.types.length = count

/-- A plain statement is numbered if its arguments count up from one to their number. -/
theorem isNumbered_of_numbers
    {statement : Statement} {count : Nat} (hplain : statement.command.IsPlain)
    (hnumbers : statement.command.numbers = List.range' 1 count)
    (harguments : statement.arguments.length = count) :
  statement.IsNumbered count
  := by
  constructor
  · rw [sql, (hasNumbers_commandText hplain).dollarNumbers_eq, hnumbers]
  · rw [values, List.length_map, harguments]
  · rw [types, List.length_map, harguments]

/-- A selection has as many placeholders as its conditions have values. -/
theorem isNumbered_select
    {catalog : Catalog} {query : Query} {statement : Statement} (hquery : query.WellFormed)
    (h : select catalog query = .ok statement) :
  statement.IsNumbered (valueCount query.conditions)
  := by
  obtain ⟨-, -, -, compared, hcompared, rfl⟩ := select_eq_ok_iff.mp h
  apply isNumbered_of_numbers
  · use hquery.columns, withoutDollar_of_isName hquery.table, hquery.joins
    apply isPlain_predicates hquery.conditions
  · apply flatMap_arguments_predicates
  · apply length_comparedArguments hcompared

/-- A deletion has as many placeholders as its conditions have values. -/
theorem isNumbered_delete
    {catalog : Catalog} {query : Query} {statement : Statement} (hquery : query.WellFormed)
    (h : delete catalog query = .ok statement) :
  statement.IsNumbered (valueCount query.conditions)
  := by
  obtain ⟨-, -, compared, hcompared, rfl⟩ := delete_eq_ok_iff.mp h
  apply isNumbered_of_numbers
  · use withoutDollar_of_isName hquery.table
    apply isPlain_predicates hquery.conditions
  · apply flatMap_arguments_predicates
  · apply length_comparedArguments hcompared

/-- A catalog none of whose columns has a dollar sign in its name. -/
def ColumnsWithoutDollar (catalog : Catalog) : Prop :=
  ∀ table ∈ catalog.tables, ∀ column ∈ table.columns, '$' ∉ column.name.toList

/-- Names of columns have no dollar sign where those of the catalog have none. -/
theorem withoutDollar_of_hasColumns
    {catalog : Catalog} (hcatalog : ColumnsWithoutDollar catalog) {name : String} {table : Table}
    (htable : catalog.table? name = some table) {names : List String} {columns : List Column}
    (h : table.HasColumns names columns) :
  ∀ name ∈ names, WithoutDollar name
  := by
  rw [← h.map_name, List.forall_mem_map]
  induction h with
  | nil => simp
  | cons hcolumn _ ih =>
      rw [List.forall_mem_cons]
      constructor
      · apply hcatalog table (Catalog.table?_eq_some_iff.mp htable).1
        apply Table.mem_of_column? hcolumn
      · apply ih

/-- An update has a placeholder for each value of its record and of its conditions. -/
theorem isNumbered_update
    {catalog : Catalog} {query : Query} {record : Record} {statement : Statement}
    (hcatalog : ColumnsWithoutDollar catalog) (hquery : query.WellFormed)
    (h : update catalog query record = .ok statement) :
  statement.IsNumbered (record.size + valueCount query.conditions)
  := by
  obtain ⟨-, table, htable, -, assigned, hassigned, compared, hcompared, rfl⟩ :=
    update_eq_ok_iff.mp h
  apply isNumbered_of_numbers
  · use withoutDollar_of_isName hquery.table
    constructor
    · intro assignment hmem
      apply withoutDollar_of_hasColumns hcatalog htable hassigned
      apply (List.of_mem_zip hmem).1
    · apply isPlain_predicates hquery.conditions
  · rw [Command.numbers, flatMap_arguments_predicates, ← Record.length_names,
      map_snd_zip_range', Nat.add_comm, List.range'_append_1]
  · rw [List.length_append, length_assignedArguments hassigned,
      length_comparedArguments hcompared]

/-- An insertion has a placeholder for each value of each record, as many in each as in the first.
-/
theorem isNumbered_insert
    {catalog : Catalog} {name : String} {records : List Record} {statement : Statement}
    (hcatalog : ColumnsWithoutDollar catalog) (hname : IsName name)
    (h : insert catalog name records = .ok statement) :
  ∃ first ∈ records.head?, statement.IsNumbered (records.length * first.size)
  := by
  obtain ⟨table, htable, first, rest, rfl, -, columns, hcolumns, rows, hrows, rfl⟩ :=
    insert_eq_ok_iff.mp h
  use first, rfl
  apply isNumbered_of_numbers
  · use withoutDollar_of_isName hname
    apply withoutDollar_of_hasColumns hcatalog htable hcolumns
  · apply flatten_tuples
  · rw [length_flatten_rows hrows, hcolumns.length_eq, Record.length_names]

/-- The placeholders of every statement that is built from a query of a path are numbered
from one in the order in which they stand in its text, one for each argument: as many as
the conditions have values, with those of the record in front of an update, and for an
insertion as many as the records have rows and the first one columns. -/
theorem placeholders_numbered
    {operators : OperatorTable} {path : String} {query : Query} {catalog : Catalog}
    (hcatalog : ColumnsWithoutDollar catalog)
    (hquery : Query.parsePath operators path = .ok query) :
  (∀ statement, select catalog query = .ok statement →
      statement.IsNumbered (valueCount query.conditions))
    ∧ (∀ statement, delete catalog query = .ok statement →
      statement.IsNumbered (valueCount query.conditions))
    ∧ (∀ record statement, update catalog query record = .ok statement →
      statement.IsNumbered (record.size + valueCount query.conditions))
    ∧ (∀ records statement, insert catalog query.table records = .ok statement →
      ∃ first ∈ records.head?, statement.IsNumbered (records.length * first.size))
  := by
  have hplain := Query.wellFormed_of_parsePath hquery
  constructor
  · intro statement h
    apply isNumbered_select hplain h
  constructor
  · intro statement h
    apply isNumbered_delete hplain h
  constructor
  · intro record statement h
    apply isNumbered_update hcatalog hplain h
  · intro records statement h
    apply isNumbered_insert hcatalog hplain.table h

theorem placeholders_numbered_library :
  ColumnsWithoutDollar library ∧ Query.parsePath .standard libraryPath = .ok libraryQuery
    ∧ (∃ statement, select library libraryQuery = .ok statement ∧ statement.IsNumbered 4)
    ∧ (∃ statement, delete library libraryQuery = .ok statement ∧ statement.IsNumbered 4)
    ∧ (∃ statement, update library libraryQuery libraryRecord = .ok statement
      ∧ statement.IsNumbered 6)
    ∧ ∃ statement, insert library libraryQuery.table [libraryRecord, libraryRecord] = .ok statement
      ∧ statement.IsNumbered 4
  := by
  have hcatalog : ColumnsWithoutDollar library := by
    rw [ColumnsWithoutDollar]
    decide
  obtain ⟨hselect, hdelete, hupdate, hinsert⟩ :=
    placeholders_numbered hcatalog parsePath_libraryPath
  use hcatalog, parsePath_libraryPath
  constructor
  · obtain ⟨statement, hstatement⟩ := exists_select_library
    use statement, hstatement
    apply hselect statement hstatement
  constructor
  · obtain ⟨statement, hstatement⟩ := exists_delete_library
    use statement, hstatement
    apply hdelete statement hstatement
  constructor
  · obtain ⟨statement, hstatement⟩ := exists_update_library
    use statement, hstatement
    apply hupdate libraryRecord statement hstatement
  · obtain ⟨statement, hstatement⟩ : ∃ statement,
        insert library libraryQuery.table [libraryRecord, libraryRecord] = .ok statement := ⟨_, rfl⟩
    obtain ⟨first, hfirst, hnumbered⟩ := hinsert _ _ hstatement
    cases hfirst
    use statement, hstatement
    apply hnumbered

end TableGateway.Statement
