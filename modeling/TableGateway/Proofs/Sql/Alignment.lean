import TableGateway.Proofs.Query.Resolution
import TableGateway.Proofs.Sql.Numbering
import TableGateway.Proofs.Sql.Reading
import TableGateway.Proofs.Text.OctetOrder

/-!
# The alignment of arguments

The arguments of a statement belong to columns: to those that a record gives values to,
in the order of the octets of their names, and then to those that the conditions of a query are
about, one for each of their values. The values, the types and the placeholders of a
statement follow this one list of columns, so none of them is bound to the column of
another.

A placeholder belongs to the column that stands on the left of its assignment or of its
comparison in the text. Assignments are found in the text as the command spells them,
since the name of an assigned column may be any text; comparisons are read from the words
of the condition.
-/

namespace TableGateway

/-! ### Texts that place arguments -/

/-- The text of a statement places its arguments as given: their numbers, each with the text
that stands on the left of its assignment or comparison. -/
inductive Sql.PlacesArguments : String → List (String × Nat) → Prop
  | unconditional {text : String} (h : WithoutDollar text) : PlacesArguments text []
  | filtered {before condition after : String} {places : List (String × Nat)}
      (hbefore : WithoutDollar before) (hcondition : places? condition = some places)
      (hafter : WithoutDollar after) :
      PlacesArguments (before ++ " WHERE " ++ condition ++ after) places
  | assigning {table condition : String} {assignments places : List (String × Nat)}
      (hcondition : places? condition = some places) :
      PlacesArguments
        ("UPDATE " ++ table ++ " SET "
          ++ ", ".intercalate (assignments.map fun place => place.1 ++ " = " ++ placeholder place.2)
          ++ " WHERE " ++ condition ++ " RETURNING id")
        (assignments ++ places)

namespace Statement

open Sql

/-- The columns of conditions as they stand in the text, one for each value. -/
def comparedTexts (conditions : List Condition) : List String :=
  conditions.flatMap fun condition =>
    List.replicate condition.values.length condition.column.text

/-- The column of a condition is compared as often as the condition has values. -/
theorem comparedTexts_cons (condition : Condition) (rest : List Condition) :
  comparedTexts (condition :: rest)
    = List.replicate condition.values.length condition.column.text ++ comparedTexts rest
  := List.flatMap_cons

/-- A text that is repeated is beside consecutive numbers. -/
theorem zipIdx_replicate (text : String) (first count : Nat) :
  (List.replicate count text).zipIdx first
    = (List.range' first count).map fun number => (text, number)
  := by
  induction count generalizing first with
  | zero => rfl
  | succ count ih =>
      rw [List.replicate_succ, List.zipIdx_cons, ih, List.range'_succ, List.map_cons]

/-- The predicates of conditions place one argument for each value, beside the column of its
condition. -/
theorem flatMap_places_predicates (first : Nat) (conditions : List Condition) :
  (predicates first conditions).flatMap Predicate.places
    = (comparedTexts conditions).zipIdx first
  := by
  induction conditions generalizing first with
  | nil => rfl
  | cons condition rest ih =>
      rw [predicates, List.flatMap_cons, ih, Predicate.places, comparedTexts_cons,
        List.zipIdx_append, zipIdx_replicate, List.length_replicate]

/-- The text of conditions places their values beside their columns. -/
theorem places?_predicates
    {first : Nat} {conditions : List Condition} (hne : conditions ≠ [])
    (h : ∀ condition ∈ conditions, condition.IsPlain) :
  places? (conjunction (predicates first conditions))
    = some ((comparedTexts conditions).zipIdx first)
  := by
  rw [places?_conjunction (predicates_ne_nil hne) (isPlain_predicates h),
    flatMap_places_predicates]

/-- A text in which only the conditions have placeholders places the values of the
conditions. -/
theorem placesArguments_whereText
    {before after : String} (hbefore : WithoutDollar before) (hafter : WithoutDollar after)
    {conditions : List Condition} (h : ∀ condition ∈ conditions, condition.IsPlain) :
  PlacesArguments (before ++ whereText (predicates 1 conditions) ++ after)
    ((comparedTexts conditions).zipIdx 1)
  := by
  cases conditions with
  | nil =>
      apply PlacesArguments.unconditional
      apply (hbefore.append _).append hafter
      decide
  | cons condition rest =>
      rw [whereText_predicates (List.cons_ne_nil condition rest), ← String.append_assoc]
      apply PlacesArguments.filtered hbefore _ hafter
      apply places?_predicates (List.cons_ne_nil condition rest) h

/-! ### Values and types -/

/-- The values that an update assigns are those of its record, in the order of the names. -/
theorem map_value_assignedArguments
    {table : Table} {record : Record} {columns : List Column}
    (h : table.HasColumns record.names columns) :
  (assignedArguments record columns).map Argument.value = record.fields.map Prod.snd
  := by
  rw [assignedArguments, List.map_zipWith]
  apply List.ext_getElem
  · rw [List.length_zipWith, List.length_map, length_fields_eq h, Nat.min_self]
  · intro i _ _
    rw [List.getElem_zipWith, List.getElem_map]

/-- The values that an update assigns have the types of their columns. -/
theorem map_type_assignedArguments
    {table : Table} {record : Record} {columns : List Column}
    (h : table.HasColumns record.names columns) :
  (assignedArguments record columns).map Argument.type = columns.map Column.type
  := by
  rw [assignedArguments, List.map_zipWith]
  apply List.ext_getElem
  · rw [List.length_zipWith, List.length_map, length_fields_eq h, Nat.min_self]
  · intro i _ _
    rw [List.getElem_zipWith, List.getElem_map]

/-- The values of conditions, each made a value of the type of the column beside its
condition. -/
def comparedValues (conditions : List Condition) (columns : List Column) : List Json :=
  (List.zipWith (fun condition column => condition.values.map column.type.coerce)
    conditions columns).flatten

/-- The types of the columns beside conditions, one for each value. -/
def comparedTypes (conditions : List Condition) (columns : List Column) : List ColumnType :=
  (List.zipWith (fun condition column => List.replicate condition.values.length column.type)
    conditions columns).flatten

/-- The values of conditions are compared in order, each in the type of its column. -/
theorem map_value_comparedArguments (conditions : List Condition) (columns : List Column) :
  (comparedArguments conditions columns).map Argument.value = comparedValues conditions columns
  := by
  simp only [comparedArguments, comparedValues, List.map_flatten, List.map_zipWith,
    conditionArguments, List.map_map]
  rfl

/-- Each value of a condition is beside the type of its column. -/
theorem map_type_comparedArguments (conditions : List Condition) (columns : List Column) :
  (comparedArguments conditions columns).map Argument.type = comparedTypes conditions columns
  := by
  simp only [comparedArguments, comparedTypes, List.map_flatten, List.map_zipWith,
    conditionArguments, List.map_map]
  simp only [Function.comp_def, List.map_const']

/-! ### Aligned statements -/

/-- The arguments of a statement about a query and the given fields of a record: its values,
its types and its placeholders follow the columns of the fields and of the conditions. -/
structure AlignedWith
    (catalog : Catalog) (query : Query) (fields : List (String × Json))
    (assigned compared : List Column) (statement : Statement) : Prop where
  order : fields.Pairwise fun field other =>
    Text.utf8Octets field.1.toList < Text.utf8Octets other.1.toList
  assignments : List.Forall₂
    (fun field column => catalog.column? query.table field.1 = some column) fields assigned
  comparisons : List.Forall₂
    (fun condition column => query.Means catalog condition.column column)
    query.conditions compared
  values : statement.values
    = fields.map Prod.snd ++ comparedValues query.conditions compared
  types : statement.types
    = assigned.map Column.type ++ comparedTypes query.conditions compared
  places : PlacesArguments statement.sql
    ((fields.map Prod.fst ++ comparedTexts query.conditions).zipIdx 1)

/-- A statement whose arguments are aligned with the columns that the fields of a record and
the conditions of a query are about. -/
def IsAligned
    (catalog : Catalog) (query : Query) (fields : List (String × Json)) (statement : Statement) :
    Prop :=
  ∃ assigned compared, statement.AlignedWith catalog query fields assigned compared

/-- The column that a condition is compared in is the one that its reference means. -/
theorem means_of_compares
    {catalog : Catalog} {query : Query} (hquery : query.WellFormed)
    (htable : ∃ table, catalog.table? query.table = some table)
    {conditions : List Condition} {columns : List Column}
    (h : Compares catalog query conditions columns) :
  List.Forall₂ (fun condition column => query.Means catalog condition.column column)
    conditions columns
  := by
  apply List.Forall₂.imp _ h
  intro condition column hcolumn
  apply (Query.resolve_eq_ok_iff hquery htable).mp hcolumn

/-- The arguments of a selection are those of its conditions, in order. -/
theorem isAligned_select
    {catalog : Catalog} {query : Query} {statement : Statement} (hquery : query.WellFormed)
    (h : select catalog query = .ok statement) :
  statement.IsAligned catalog query []
  := by
  obtain ⟨htable, -, -, compared, hcompared, rfl⟩ := select_eq_ok_iff.mp h
  use [], compared
  constructor
  · apply List.Pairwise.nil
  · apply List.Forall₂.nil
  · apply means_of_compares hquery htable hcompared
  · apply map_value_comparedArguments
  · apply map_type_comparedArguments
  · rw [sql, Command.text_select, String.append_assoc]
    apply placesArguments_whereText _ _ hquery.conditions
    · apply withoutDollar_selection hquery.columns _ hquery.joins
      apply withoutDollar_of_isName hquery.table
    · apply withoutDollar_bounds

/-- The arguments of a deletion are those of its conditions, in order. -/
theorem isAligned_delete
    {catalog : Catalog} {query : Query} {statement : Statement} (hquery : query.WellFormed)
    (h : delete catalog query = .ok statement) :
  statement.IsAligned catalog query []
  := by
  obtain ⟨-, htable, compared, hcompared, rfl⟩ := delete_eq_ok_iff.mp h
  use [], compared
  constructor
  · apply List.Pairwise.nil
  · apply List.Forall₂.nil
  · apply means_of_compares hquery htable hcompared
  · apply map_value_comparedArguments
  · apply map_type_comparedArguments
  · rw [sql, Command.text_delete]
    apply placesArguments_whereText _ _ hquery.conditions
    · apply WithoutDollar.append (by decide)
      apply withoutDollar_of_isName hquery.table
    · decide

/-- The arguments of an update are those of its record, and then those of its conditions. -/
theorem isAligned_update
    {catalog : Catalog} {query : Query} {record : Record} {statement : Statement}
    (hquery : query.WellFormed) (h : update catalog query record = .ok statement) :
  statement.IsAligned catalog query record.fields
  := by
  obtain ⟨⟨hconditions, -⟩, table, htable, -, assigned, hassigned, compared, hcompared, rfl⟩ :=
    update_eq_ok_iff.mp h
  use assigned, compared
  constructor
  · apply record.sorted.imp
    intro field other hlt
    apply Text.utf8Octets_lt_utf8Octets_iff.mpr hlt
  · apply (List.forall₂_map_left_iff.mp hassigned).imp
    intro field column hcolumn
    apply Catalog.column?_eq_some_iff.mpr ⟨table, htable, hcolumn⟩
  · apply means_of_compares hquery ⟨table, htable⟩ hcompared
  · rw [values, List.map_append, map_value_assignedArguments hassigned,
      map_value_comparedArguments]
  · rw [types, List.map_append, map_type_assignedArguments hassigned,
      map_type_comparedArguments]
  · rw [sql, Command.text_update, whereText_predicates hconditions, ← String.append_assoc,
      List.zipIdx_append, ← Record.length_names, ← List.zipIdx_eq_zip_range', List.length_map,
      Record.length_names, Record.size, Nat.add_comm]
    apply PlacesArguments.assigning
    apply places?_predicates hconditions hquery.conditions

/-- The values, the types and the placeholders of the statements that select, delete and
change rows follow one list of columns: first those that the record names, in the order of
the octets of their names, then those that the conditions mean, one for each value. -/
theorem arguments_aligned
    {operators : OperatorTable} {path : String} {query : Query} (catalog : Catalog)
    (hquery : Query.parsePath operators path = .ok query) :
  (∀ statement, select catalog query = .ok statement → statement.IsAligned catalog query [])
    ∧ (∀ statement, delete catalog query = .ok statement → statement.IsAligned catalog query [])
    ∧ ∀ (record : Record) (statement : Statement),
      update catalog query record = .ok statement →
        statement.IsAligned catalog query record.fields
  := by
  have hwellFormed := Query.wellFormed_of_parsePath hquery
  constructor
  · intro statement h
    apply isAligned_select hwellFormed h
  · constructor
    · intro statement h
      apply isAligned_delete hwellFormed h
    · intro record statement h
      apply isAligned_update hwellFormed h

theorem arguments_aligned_library :
  Query.parsePath .standard libraryPath = .ok libraryQuery
    ∧ (∃ statement, select library libraryQuery = .ok statement
      ∧ statement.IsAligned library libraryQuery [])
    ∧ (∃ statement, delete library libraryQuery = .ok statement
      ∧ statement.IsAligned library libraryQuery [])
    ∧ ∃ statement, update library libraryQuery libraryRecord = .ok statement
      ∧ statement.IsAligned library libraryQuery libraryRecord.fields
  := by
  obtain ⟨hselect, hdelete, hupdate⟩ := arguments_aligned library parsePath_libraryPath
  use parsePath_libraryPath
  constructor
  · obtain ⟨statement, hstatement⟩ := exists_select_library
    use statement, hstatement
    apply hselect statement hstatement
  constructor
  · obtain ⟨statement, hstatement⟩ := exists_delete_library
    use statement, hstatement
    apply hdelete statement hstatement
  · obtain ⟨statement, hstatement⟩ := exists_update_library
    use statement, hstatement
    apply hupdate libraryRecord statement hstatement

end Statement

end TableGateway
