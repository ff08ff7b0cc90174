import Mathlib.Data.List.Triplewise
import TableGateway.Catalog.Introspection
import TableGateway.Proofs.Catalog.Coherence

/-!
# Grouping the description of a database

The description of a database has a row for each column, and is read row by row. A row comes
to the columns of the pending table, or it finishes that table and begins another one; the last
table is finished after the last row. No row is lost on the way, and if no rows of another
table stand between those of one table, then each table is made of all its rows in their order.
-/

namespace TableGateway

namespace ColumnDescription

/-- Rows of one table follow each other: no row of another table stands between two of them. -/
def Adjacent (descriptions : List ColumnDescription) : Prop :=
  descriptions.Triplewise fun first middle last =>
    first.table = last.table → middle.table = first.table

/-- The columns that the rows of a table describe, in the order of the rows. -/
def columnsOf (descriptions : List ColumnDescription) (name : String) : List Column :=
  (descriptions.filter (·.table = name)).map toColumn

/-- What rows say of the tables: the tables in the order in which they first appear, each with
its columns. -/
def byTable (descriptions : List ColumnDescription) : List (String × List Column) :=
  (descriptions.map table).eraseDups.map fun name => (name, columnsOf descriptions name)

/-- A table has exactly the columns that the rows of a name describe. -/
structure Describes (descriptions : List ColumnDescription) (key : String) (table : Table) :
    Prop where
  name : table.name = key
  columns : Column.KeepsFirst (columnsOf descriptions key) table.columns

variable {description : ColumnDescription} {descriptions : List ColumnDescription}

/-! ### Groups of rows -/

/-- The tables of groups of columns. -/
def tablesOf (groups : List (String × List Column)) : List Table :=
  groups.map fun (name, columns) => Table.ofColumns name columns

/-- The columns of groups, each with the name of its table. -/
def rows (groups : List (String × List Column)) : List (String × Column) :=
  groups.flatMap fun (name, columns) => columns.map fun column => (name, column)

theorem rows_append (groups others : List (String × List Column)) :
  rows (groups ++ others) = rows groups ++ rows others
  := List.flatMap_append

theorem rows_singleton (name : String) (columns : List Column) :
  rows [(name, columns)] = columns.map fun column => (name, column)
  := List.flatMap_singleton ..

/-- The rows of groups of different names are found in the groups of their names. -/
theorem filter_rows
    {groups : List (String × List Column)} (h : (groups.map Prod.fst).Nodup)
    {name : String} {columns : List Column} (hgroup : (name, columns) ∈ groups) :
  (rows groups).filter (·.1 = name) = rows [(name, columns)]
  := by
  have hself : (rows [(name, columns)]).filter (·.1 = name) = rows [(name, columns)] := by
    rw [List.filter_eq_self, rows_singleton, List.forall_mem_map]
    simp
  have hother : ∀ others : List (String × List Column), name ∉ others.map Prod.fst →
      (rows others).filter (·.1 = name) = [] := by
    intro others hnot
    rw [List.filter_eq_nil_iff, rows, List.forall_mem_flatMap]
    rintro ⟨other, _⟩ hmem row hrow
    obtain ⟨column, -, rfl⟩ := List.mem_map.mp hrow
    rw [decide_eq_true_eq]
    rintro rfl
    apply hnot (List.mem_map_of_mem hmem)
  obtain ⟨before, after, rfl⟩ := List.append_of_mem hgroup
  rw [List.map_append, List.map_cons, List.nodup_append, List.nodup_cons] at h
  rw [← List.singleton_append, rows_append, rows_append, List.filter_append, List.filter_append,
    hself, hother after h.2.1.1, hother before, List.append_nil, List.nil_append]
  intro hbefore
  apply h.2.2 name hbefore name List.mem_cons_self rfl

/-- If the rows of a description are put into groups and each table has one group, then this
group holds all rows of the table. -/
theorem eq_byTable
    {groups : List (String × List Column)}
    (hrows : rows groups = descriptions.map fun row => (row.table, row.toColumn))
    (hnames : groups.map Prod.fst = (descriptions.map table).eraseDups) :
  groups = byTable descriptions
  := by
  have hnodup : (groups.map Prod.fst).Nodup := by
    rw [hnames]
    apply nodup_eraseDups
  have hgroup : ∀ group ∈ groups, group = (group.1, columnsOf descriptions group.1) := by
    rintro ⟨name, columns⟩ hmem
    have hfound := filter_rows hnodup hmem
    rw [hrows, List.filter_map, rows_singleton] at hfound
    have hcolumns := congrArg (List.map Prod.snd) hfound
    rw [List.map_map, List.map_map] at hcolumns
    rw [Prod.mk.injEq, columnsOf]
    use rfl
    apply ((List.map_id' columns).symm.trans hcolumns.symm)
  rw [byTable, ← hnames, List.map_map]
  conv_lhs => rw [← List.map_id groups]
  apply List.map_congr_left hgroup

/-! ### The loop -/

/-- After a row of another table than the last one, no earlier row is of its table. -/
theorem Adjacent.not_mem
    (h : Adjacent (descriptions ++ [description]))
    (hlast : descriptions.getLast?.map table ≠ some description.table) :
  description.table ∉ descriptions.map table
  := by
  cases descriptions using List.reverseRecOn with
  | nil => simp
  | append_singleton earlier last =>
      rw [List.getLast?_concat, Option.map_some, ne_eq, Option.some.injEq] at hlast
      rw [List.map_append, List.mem_append, List.map_singleton, List.mem_singleton, not_or]
      constructor
      · -- The last row would stand between two rows of one table.
        intro hmem
        obtain ⟨first, hfirst, hsame⟩ := List.mem_map.mp hmem
        have hpairs := (List.triplewise_append.mp h).2.2.2 description (List.mem_singleton_self _)
        have hbetween := (List.pairwise_append.mp hpairs).2.2 first hfirst last
          (List.mem_singleton_self last) hsame
        apply hlast (hbetween.trans hsame)
      · apply Ne.symm hlast

/-- The start of adjacent rows is adjacent. -/
theorem Adjacent.left {others : List ColumnDescription} (h : Adjacent (descriptions ++ others)) :
  Adjacent descriptions
  := (List.triplewise_append.mp h).1

namespace Grouping

/-- What has become of the rows that have been read: the finished tables are those of groups,
and with the pending one these have all the columns of the rows, in their order. The pending
group is that of the last row, and no group is empty. If the rows of each table follow each
other, then there is one group for each table. -/
structure Holds (grouping : Grouping) (groups : List (String × List Column))
    (consumed : List ColumnDescription) : Prop where
  finished : grouping.finished = tablesOf groups
  rows : rows (groups ++ grouping.pending.toList)
    = consumed.map fun row => (row.table, row.toColumn)
  last : grouping.pending.map Prod.fst = consumed.getLast?.map table
  filled : ∀ group ∈ groups ++ grouping.pending.toList, group.2 ≠ []
  names : Adjacent consumed →
    (groups ++ grouping.pending.toList).map Prod.fst = (consumed.map table).eraseDups

variable {grouping : Grouping} {groups : List (String × List Column)}
  {consumed : List ColumnDescription}

/-- The pending table is finished like the others. -/
theorem Holds.flush_eq (h : grouping.Holds groups consumed) :
  grouping.flush = tablesOf (groups ++ grouping.pending.toList)
  := by
  rw [flush, h.finished, tablesOf, tablesOf, List.map_append]
  cases grouping.pending with
  | none => simp
  | some group => rfl

/-- A row of the pending table comes to its columns. -/
theorem Holds.add_of_same
    {name : String} {columns : List Column} (h : grouping.Holds groups consumed)
    (hpending : grouping.pending = some (name, columns)) (hname : name = description.table) :
  (grouping.add description).Holds groups (consumed ++ [description])
  := by
  have hadd : grouping.add description
      = ⟨grouping.finished, some (name, columns ++ [description.toColumn])⟩ := by
    simp only [add, hpending]
    rw [if_pos hname]
  obtain ⟨hfinished, hrows, hlast, hfilled, hnames⟩ := h
  rw [hpending] at hrows hlast hfilled hnames
  rw [hadd]
  constructor
  case finished => apply hfinished
  case rows =>
    rw [List.map_append, ← hrows, List.map_singleton, ← hname, rows_append, rows_append,
      List.append_assoc]
    simp [rows_singleton]
  case last => simp [hname]
  case filled =>
    rw [List.forall_mem_append] at hfilled ⊢
    use hfilled.1
    simp
  case names =>
    intro hadjacent
    have hmem : description.table ∈ consumed.map table := by
      obtain ⟨row, hrow, htable⟩ := Option.map_eq_some_iff.mp hlast.symm
      rw [← hname]
      apply List.mem_map.mpr ⟨row, List.mem_of_getLast? hrow, htable⟩
    have hconsumed : ((consumed ++ [description]).map table).eraseDups
        = (consumed.map table).eraseDups := by
      rw [List.map_append, List.map_singleton, eraseDups_append_singleton, if_pos hmem]
    rw [hconsumed, ← hnames hadjacent.left]
    simp

/-- A row of another table finishes the pending one and begins a group of its own. -/
theorem Holds.add_of_other
    (h : grouping.Holds groups consumed)
    (hother : grouping.pending.map Prod.fst ≠ some description.table) :
  (grouping.add description).Holds (groups ++ grouping.pending.toList) (consumed ++ [description])
  := by
  have hadd : grouping.add description
      = ⟨grouping.flush, some (description.table, [description.toColumn])⟩ := by
    rw [add]
    split
    · rename_i hpending
      rw [hpending, Option.map_some, ne_eq, Option.some.injEq] at hother
      rw [if_neg hother]
    · rfl
  rw [hadd]
  constructor
  case finished => apply h.flush_eq
  case rows =>
    rw [rows_append, h.rows, List.map_append, Option.toList_some, rows_singleton]
    rfl
  case last => simp
  case filled =>
    rw [List.forall_mem_append]
    use h.filled
    simp
  case names =>
    intro hadjacent
    rw [h.last] at hother
    rw [List.map_append, h.names hadjacent.left, List.map_append, List.map_singleton,
      eraseDups_append_singleton, if_neg (hadjacent.not_mem hother)]
    rfl

/-- One more row keeps what has become of the rows before it. -/
theorem Holds.add (h : grouping.Holds groups consumed) (description : ColumnDescription) :
  ∃ others, (grouping.add description).Holds others (consumed ++ [description])
  := by
  by_cases hsame : grouping.pending.map Prod.fst = some description.table
  · obtain ⟨⟨name, columns⟩, hpending, hname⟩ := Option.map_eq_some_iff.mp hsame
    exact ⟨_, h.add_of_same hpending hname⟩
  · exact ⟨_, h.add_of_other hsame⟩

/-- Whatever rows are read, the loop holds them. -/
theorem exists_holds (consumed : List ColumnDescription) :
  ∃ groups, (consumed.foldl Grouping.add ⟨[], none⟩).Holds groups consumed
  := by
  induction consumed using List.reverseRecOn with
  | nil =>
      use []
      constructor <;> simp [tablesOf, ColumnDescription.rows]
  | append_singleton consumed description ih =>
      obtain ⟨groups, h⟩ := ih
      rw [List.foldl_append]
      apply h.add

end Grouping

/-- The tables of a description are those of groups that hold all its rows. -/
theorem exists_groups (descriptions : List ColumnDescription) :
  ∃ groups, tables descriptions = tablesOf groups
    ∧ rows groups = descriptions.map (fun row => (row.table, row.toColumn))
    ∧ (∀ group ∈ groups, group.2 ≠ [])
    ∧ (Adjacent descriptions → groups.map Prod.fst = (descriptions.map table).eraseDups)
  := by
  obtain ⟨groups, h⟩ := Grouping.exists_holds descriptions
  exact ⟨_, h.flush_eq, h.rows, h.filled, h.names⟩

theorem tables_eq_byTable (h : Adjacent descriptions) :
  tables descriptions = tablesOf (byTable descriptions)
  := by
  obtain ⟨groups, htables, hrows, -, hnames⟩ := exists_groups descriptions
  rw [htables, eq_byTable hrows (hnames h)]

/-- A table that is described has a column. -/
theorem columns_ne_nil {made : Table} (h : made ∈ tables descriptions) :
  made.columns ≠ []
  := by
  obtain ⟨groups, htables, -, hfilled, -⟩ := exists_groups descriptions
  rw [htables] at h
  obtain ⟨⟨name, columns⟩, hgroup, rfl⟩ := List.mem_map.mp h
  obtain ⟨first, hfirst⟩ := List.exists_mem_of_ne_nil columns (hfilled _ hgroup)
  intro hempty
  have hcolumn : (Table.ofColumns name columns).hasColumn first.name = true :=
    Table.hasColumn_ofColumns.mpr (List.mem_map_of_mem hfirst)
  rw [Table.hasColumn_iff, hempty] at hcolumn
  cases hcolumn

/-! ### The tables of a description -/

theorem forall₂_describes (h : Adjacent descriptions) :
  List.Forall₂ (Describes descriptions) (descriptions.map table).eraseDups (tables descriptions)
  := by
  rw [tables_eq_byTable h, tablesOf, byTable, List.map_map]
  apply List.forall₂_map_right_iff.mpr
  apply List.forall₂_same.mpr
  intro name _
  constructor
  case name => rfl
  case columns => apply Table.keepsFirst_ofColumns

/-- Under the name of a table its columns are listed. -/
theorem lastListed?_byTable (descriptions : List ColumnDescription) (name : String) :
  Catalog.lastListed? (byTable descriptions) name
    = if name ∈ descriptions.map table then some (columnsOf descriptions name) else none
  := by
  have hfilter : (byTable descriptions).filter (·.1 = name)
      = List.replicate ((descriptions.map table).eraseDups.count name)
        (name, columnsOf descriptions name) := by
    have hname : (fun group : String × List Column => decide (group.1 = name))
          ∘ (fun name => (name, columnsOf descriptions name))
        = fun other => decide (other = name) := rfl
    rw [byTable, List.filter_map, hname, List.filter_eq, List.map_replicate]
  rw [Catalog.lastListed?, hfilter, List.getLast?_replicate]
  simp only [List.count_eq_zero, List.mem_eraseDups]
  by_cases hmem : name ∈ descriptions.map table
  · rw [if_neg (not_not.mpr hmem), if_pos hmem, Option.map_some]
  · rw [if_pos hmem, if_neg hmem, Option.map_none]

theorem find?_columnsOf (descriptions : List ColumnDescription) (name key : String) :
  (columnsOf descriptions name).find? (·.name = key)
    = (descriptions.find? fun row => row.table = name ∧ row.column = key).map toColumn
  := by
  rw [columnsOf, List.find?_map, List.find?_filter]
  simp only [Function.comp_apply, decide_eq_true_eq]
  rfl

/-! ### Their catalog -/

section

variable (h : Adjacent descriptions)

include h

theorem ofTables_tables :
  Catalog.ofTables (tables descriptions) = Catalog.ofListed (byTable descriptions)
  := by
  rw [tables_eq_byTable h]
  rfl

theorem hasTable_ofTables {name : String} :
  (Catalog.ofTables (tables descriptions)).hasTable name = true
    ↔ ∃ row ∈ descriptions, row.table = name
  := by
  rw [ofTables_tables h, Catalog.hasTable_ofListed, byTable, List.map_map, List.mem_map]
  simp

theorem columns?_ofTables {name : String} {columns : List Column} :
  (Catalog.ofTables (tables descriptions)).columns? name = some columns
    ↔ (∃ row ∈ descriptions, row.table = name)
      ∧ Column.KeepsFirst (columnsOf descriptions name) columns
  := by
  rw [ofTables_tables h, Catalog.columns?_ofListed, lastListed?_byTable, ← List.mem_map]
  split
  · rename_i hmem
    rw [Option.map_some, Option.some.injEq]
    constructor
    · rintro rfl
      use hmem
      apply Column.keepsFirst_keep
    · rintro ⟨-, hkeeps⟩
      rw [hkeeps.eq_keep]
  · rename_i hnot
    simp [hnot]

theorem column?_ofTables (name key : String) :
  (Catalog.ofTables (tables descriptions)).column? name key
    = (descriptions.find? fun row => row.table = name ∧ row.column = key).map toColumn
  := by
  rw [ofTables_tables h, Catalog.column?_ofListed, lastListed?_byTable, ← find?_columnsOf]
  split
  · rfl
  · rename_i hnot
    have hnil : columnsOf descriptions name = [] := by
      rw [columnsOf, List.map_eq_nil_iff, List.filter_eq_nil_iff]
      intro row hrow
      rw [decide_eq_true_eq]
      rintro rfl
      apply hnot (List.mem_map_of_mem hrow)
    rw [hnil]
    rfl

theorem hasColumn_ofTables {name key : String} :
  (Catalog.ofTables (tables descriptions)).hasColumn name key = true
    ↔ ∃ row ∈ descriptions, row.table = name ∧ row.column = key
  := by
  rw [← Catalog.isSome_column?, column?_ofTables h, Option.isSome_map, List.find?_isSome]
  simp only [decide_eq_true_eq]

end

/-- If the rows of each table follow each other, there is exactly one table for each name of a
table, in the order in which the names first appear, and it has exactly the columns that its
rows describe, of each name the first. No row is lost on the way. The catalog of these tables
has a table or a column exactly if a row says so, and a column has the type that the first row
about it gives. -/
theorem grouped_completely (h : Adjacent descriptions) :
  List.Forall₂ (Describes descriptions) (descriptions.map table).eraseDups (tables descriptions)
    ∧ (∃ groups, tables descriptions = tablesOf groups
      ∧ rows groups = descriptions.map fun row => (row.table, row.toColumn))
    ∧ (∀ name, (Catalog.ofTables (tables descriptions)).hasTable name = true
      ↔ ∃ row ∈ descriptions, row.table = name)
    ∧ (∀ name columns, (Catalog.ofTables (tables descriptions)).columns? name = some columns
      ↔ (∃ row ∈ descriptions, row.table = name)
        ∧ Column.KeepsFirst (columnsOf descriptions name) columns)
    ∧ (∀ name key, (Catalog.ofTables (tables descriptions)).hasColumn name key = true
      ↔ ∃ row ∈ descriptions, row.table = name ∧ row.column = key)
    ∧ (∀ name key, (Catalog.ofTables (tables descriptions)).column? name key
      = (descriptions.find? fun row => row.table = name ∧ row.column = key).map toColumn)
  := by
  refine ⟨?_, ?_, ?_, ?_, ?_, ?_⟩
  · apply forall₂_describes h
  · obtain ⟨groups, htables, hrows, -⟩ := exists_groups descriptions
    use groups, htables, hrows
  · intro name
    apply hasTable_ofTables h
  · intro name columns
    apply columns?_ofTables h
  · intro name key
    apply hasColumn_ofTables h
  · apply column?_ofTables h

/-- A description of two tables, the first of which has a column twice. -/
def libraryDescription : List ColumnDescription := [
  ⟨"authors", "id", "integer"⟩, ⟨"authors", "name", "character varying"⟩,
  ⟨"authors", "id", "text"⟩, ⟨"books", "id", "BIGINT"⟩]

/-- The last row of the first table and the only one of the second are there, and the first row
about a column gives its type. -/
theorem grouped_completely_library :
  Adjacent libraryDescription
    ∧ (tables libraryDescription).map (fun table => (table.name, table.columns))
      = [("authors", [⟨"id", .int⟩, ⟨"name", .string⟩]), ("books", [⟨"id", .bigint⟩])]
    ∧ (Catalog.ofTables (tables libraryDescription)).column? "authors" "id" = some ⟨"id", .int⟩
    ∧ (Catalog.ofTables (tables libraryDescription)).hasColumn "books" "name" = false
  := by
  have hadjacent : Adjacent libraryDescription := by
    simp [Adjacent, libraryDescription, List.triplewise_cons]
  obtain ⟨-, -, -, -, hhas, hcolumn⟩ := grouped_completely hadjacent
  refine ⟨hadjacent, by decide, (hcolumn _ _).trans (by decide), ?_⟩
  rw [Bool.eq_false_iff, ne_eq, hhas]
  decide

end ColumnDescription

end TableGateway
