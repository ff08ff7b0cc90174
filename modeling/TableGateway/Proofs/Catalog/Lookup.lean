import TableGateway.Catalog.Basic
import TableGateway.Proofs.NameOrder

/-!
# Looking columns and tables up

What a table finds in the set of names it finds in the list of its columns, too. In a catalog
a name is looked up to the one table that has it. In the catalog of listed tables that is
the last one listed under the name, so that tables of other names do not matter, and
neither does the order in which tables of different names are listed.
-/

namespace TableGateway

/-! ### Columns -/

namespace Table

theorem nodup (table : Table) :
  (table.columns.map Column.name).Nodup
  := table.consistent.nodup

/-- The set of names has exactly the names of the columns. -/
theorem hasColumn_iff {table : Table} {name : String} :
  table.hasColumn name = true ↔ name ∈ table.columns.map Column.name
  := table.consistent.contains_iff name

/-- Nothing is missed because a column is searched for only if the set has its name. -/
theorem column?_eq_find? (table : Table) (name : String) :
  table.column? name = table.columns.find? (·.name = name)
  := by
  rw [column?]
  split
  · rfl
  · rename_i hnot
    rw [hasColumn_iff] at hnot
    symm
    rw [List.find?_eq_none]
    intro column hcolumn hname
    rw [decide_eq_true_eq] at hname
    apply hnot
    rw [← hname]
    apply List.mem_map_of_mem hcolumn

theorem name_of_column?
    {table : Table} {name : String} {column : Column} (h : table.column? name = some column) :
  column.name = name
  := by
  rw [column?_eq_find?] at h
  simpa using List.find?_some h

theorem mem_of_column?
    {table : Table} {name : String} {column : Column} (h : table.column? name = some column) :
  column ∈ table.columns
  := by
  rw [column?_eq_find?] at h
  apply List.mem_of_find?_eq_some h

theorem isSome_column? (table : Table) (name : String) :
  (table.column? name).isSome = table.hasColumn name
  := by
  rw [Bool.eq_iff_iff, column?_eq_find?, hasColumn_iff, List.find?_isSome, List.mem_map]
  simp only [decide_eq_true_eq]

/-- A table is determined by its name and its columns, since these determine the set of their
names. -/
theorem eq_of_columns
    {table other : Table} (hname : table.name = other.name)
    (hcolumns : table.columns = other.columns) :
  table = other
  := by
  have hnames : table.names = other.names := by
    apply NameSet.ext
    intro name
    rw [Bool.eq_iff_iff]
    apply hasColumn_iff.trans
    rw [hcolumns]
    apply hasColumn_iff.symm
  cases table
  cases other
  cases hname
  cases hcolumns
  cases hnames
  rfl

end Table

namespace Catalog

open NameOrder

/-! ### Entries and tables -/

/-- The entry of a table is under its name. -/
theorem mem_entries_iff {catalog : Catalog} {name : String} {table : Table} :
  (name, table) ∈ catalog.entries ↔ table ∈ catalog.tables ∧ table.name = name
  := by
  rw [tables, List.mem_map]
  constructor
  · intro h
    use ⟨(name, table), h, rfl⟩, catalog.named _ h
  · rintro ⟨⟨entry, hentry, rfl⟩, rfl⟩
    rw [catalog.named entry hentry]
    apply hentry

/-- The keys of the entries are the names of the tables. -/
theorem map_fst_entries (catalog : Catalog) :
  catalog.entries.map Prod.fst = catalog.tables.map Table.name
  := by
  rw [tables, List.map_map]
  apply List.map_congr_left
  intro entry hentry
  apply (catalog.named entry hentry).symm

/-- The tables are in increasing order of their names. -/
theorem sorted (catalog : Catalog) :
  catalog.tables.Pairwise (·.name < ·.name)
  := by
  rw [← List.pairwise_map, ← map_fst_entries, List.pairwise_map]
  apply catalog.ordered

/-- A name is looked up to a table exactly when the catalog has the table under that name. -/
theorem table?_eq_some_iff {catalog : Catalog} {name : String} {table : Table} :
  catalog.table? name = some table ↔ table ∈ catalog.tables ∧ table.name = name
  := by
  rw [table?, lookup_eq_some_iff catalog.ordered, mem_entries_iff]

/-- A name has an entry exactly when it is looked up to a table. -/
theorem hasTable_iff {catalog : Catalog} {name : String} :
  catalog.hasTable name = true ↔ ∃ table, catalog.table? name = some table
  := by
  simp only [hasTable, List.any_eq_true, decide_eq_true_eq, table?_eq_some_iff, ← mem_entries_iff]
  constructor
  · rintro ⟨⟨_, table⟩, hentry, rfl⟩
    use table, hentry
  · rintro ⟨table, hentry⟩
    use (name, table), hentry

/-- Nothing changes when the names, which are in order already, are sorted. -/
theorem tableNames_eq (catalog : Catalog) :
  catalog.tableNames = catalog.tables.map Table.name
  := by
  rw [tableNames, map_fst_entries]
  apply sort_eq_self (List.pairwise_map.mpr catalog.sorted)

theorem isSome_column? (catalog : Catalog) (table name : String) :
  (catalog.column? table name).isSome = catalog.hasColumn table name
  := by
  rw [column?, hasColumn]
  cases catalog.table? table with
  | none => rfl
  | some found => apply found.isSome_column?

/-! ### The same tables -/

/-- Catalogs with the same tables are equal, since the order of the tables is given. -/
theorem ext_tables
    {catalog other : Catalog} (h : ∀ table, table ∈ catalog.tables ↔ table ∈ other.tables) :
  catalog = other
  := by
  have hentries : catalog.entries = other.entries := by
    apply eq_of_mem_iff catalog.ordered other.ordered
    intro entry
    rw [mem_entries_iff, mem_entries_iff, h]
  cases catalog
  cases other
  cases hentries
  rfl

/-- The tables of a catalog are collected in order of their names. -/
theorem tables_ofTables_eq_collect (tables : List Table) :
  (ofTables tables).tables = collect Table.name tables
  := by
  have hentries : (ofTables tables).entries
      = (collect Table.name tables).map fun table => (table.name, table) := collect_map _ tables
  have hid : Prod.snd ∘ (fun table : Table => (table.name, table)) = id := rfl
  rw [Catalog.tables, hentries, List.map_map, hid, List.map_id]

/-- Of the tables that are listed under a name, the last one is looked up. -/
theorem table?_ofTables (tables : List Table) (name : String) :
  (ofTables tables).table? name = (tables.filter (·.name = name)).getLast?
  := by
  ext table
  rw [List.getLast?_eq_head?_reverse, ← List.filter_reverse, List.head?_filter, table?_eq_some_iff,
    tables_ofTables_eq_collect, mem_collect_iff, List.find?_eq_some_iff_append]
  constructor
  · rintro ⟨⟨before, after, rfl, hafter⟩, rfl⟩
    use by simp, after.reverse, before.reverse, by simp
    simpa using hafter
  · rintro ⟨hname, after, before, hsplit, hafter⟩
    rw [decide_eq_true_eq] at hname
    subst hname
    use ⟨before.reverse, after.reverse, by simpa using congrArg List.reverse hsplit, ?_⟩
    simpa using hafter

/-- Tables of different names may be listed in any order. -/
theorem ofTables_eq_of_perm
    {tables others : List Table} (h : tables.Perm others) (hnodup : (tables.map Table.name).Nodup) :
  ofTables tables = ofTables others
  := by
  apply ext_tables
  intro table
  rw [tables_ofTables_eq_collect, tables_ofTables_eq_collect, mem_collect_of_nodup hnodup,
    mem_collect_of_nodup ((h.map Table.name).nodup_iff.mp hnodup), h.mem_iff]

end Catalog

end TableGateway
