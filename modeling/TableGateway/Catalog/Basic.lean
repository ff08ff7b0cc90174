import TableGateway.Catalog.ColumnType
import TableGateway.NameOrder

/-!
# Catalogs

A catalog has the tables that requests may use, by their names. A table has columns in a fixed order,
no two of one name, and beside them the set of their names, so that a name is looked up without a
search. Of columns that are listed with one name a table keeps the first, and of tables that are
listed with one name a catalog keeps the last.
-/

namespace TableGateway

/-- A column of a table. -/
structure Column where
  name : String
  type : ColumnType
  deriving DecidableEq

namespace Column

/-- Columns that are kept, and the names that have been met. -/
structure Kept where
  columns : List Column
  names : NameSet

/-- One more column is kept if its name is new. -/
def Kept.add (kept : Kept) (column : Column) : Kept :=
  let (new, names) := kept.names.insert column.name
  ⟨if new then kept.columns ++ [column] else kept.columns, names⟩

/-- What is kept of listed columns. -/
def keep (listed : List Column) : Kept :=
  listed.foldl Kept.add ⟨[], .empty⟩

/-- The names that have been met are exactly those of the columns that are kept, and no two of
these have one name. -/
structure Kept.Consistent (kept : Kept) : Prop where
  nodup : (kept.columns.map name).Nodup
  contains_iff : ∀ key, kept.names.contains key = true ↔ key ∈ kept.columns.map name

/-- One more column is kept exactly if its name has not been met. -/
theorem Kept.columns_add (kept : Kept) (column : Column) :
  (kept.add column).columns
    = if kept.names.contains column.name then kept.columns else kept.columns ++ [column]
  := by
  cases h : kept.names.contains column.name <;> simp [add, h]

/-- A column whose name has been met changes nothing, and another one is kept with its name. -/
theorem Kept.Consistent.add {kept : Kept} (h : kept.Consistent) (column : Column) :
  (kept.add column).Consistent
  := by
  have hcontains : ∀ key, (kept.add column).names.contains key = true
      ↔ key = column.name ∨ key ∈ kept.columns.map name := by
    intro key
    rw [← h.contains_iff]
    exact NameSet.contains_insert
  cases hmet : kept.names.contains column.name with
  | true =>
      have hcolumns : (kept.add column).columns = kept.columns := by
        rw [columns_add, hmet, if_pos rfl]
      constructor
      · rw [hcolumns]
        exact h.nodup
      · intro key
        rw [hcontains, hcolumns, or_iff_right_iff_imp]
        rintro rfl
        exact (h.contains_iff _).mp hmet
  | false =>
      have hcolumns : (kept.add column).columns = kept.columns ++ [column] := by
        rw [columns_add, hmet, if_neg Bool.false_ne_true]
      have hnew : column.name ∉ kept.columns.map name := by
        rw [← h.contains_iff, hmet]
        exact Bool.false_ne_true
      constructor
      · rw [hcolumns, List.map_append, List.nodup_append]
        refine ⟨h.nodup, by simp, ?_⟩
        rintro key hkey other hother rfl
        rw [List.map_singleton, List.mem_singleton] at hother
        exact hnew (hother ▸ hkey)
      · intro key
        rw [hcontains, hcolumns, List.map_append, List.mem_append, or_comm]
        simp

/-- Whatever is listed, the names and the columns of what is kept go together. -/
theorem consistent_keep (listed : List Column) :
  (keep listed).Consistent
  := by
  suffices ∀ kept : Kept, kept.Consistent → (listed.foldl Kept.add kept).Consistent from
    this _ ⟨.nil, by simp⟩
  induction listed with
  | nil => exact fun _ h => h
  | cons column rest ih => exact fun _ h => ih _ (h.add column)

end Column

/-- A table: its name, its columns in order, no two of one name, and the set of their names. -/
structure Table where
  name : String
  columns : List Column
  names : NameSet
  consistent : Column.Kept.Consistent ⟨columns, names⟩

namespace Table

/-- The table with the given columns; of columns with one name the first is kept. -/
def ofColumns (name : String) (columns : List Column) : Table where
  name := name
  columns := (Column.keep columns).columns
  names := (Column.keep columns).names
  consistent := Column.consistent_keep columns

/-- Whether the table has a column with a given name, as the set of names has it. -/
def hasColumn (table : Table) (name : String) : Bool :=
  table.names.contains name

/-- The column with a given name, which is searched for only if there is one. -/
def column? (table : Table) (name : String) : Option Column :=
  if table.hasColumn name then table.columns.find? (·.name = name) else none

end Table

/-- A catalog: its tables by their names, which are in increasing order. -/
structure Catalog where
  entries : List (String × Table)
  ordered : entries.Pairwise (·.1 < ·.1)
  named : ∀ entry ∈ entries, entry.2.name = entry.1

namespace Catalog

/-- The catalog of the given tables; of tables with one name the last is kept. -/
def ofTables (tables : List Table) : Catalog where
  entries := NameOrder.collect Prod.fst (tables.map fun table => (table.name, table))
  ordered := NameOrder.pairwise_collect _
  named := by
    intro entry h
    obtain ⟨table, -, rfl⟩ := List.mem_map.mp (NameOrder.mem_of_mem_collect h)
    rfl

/-- The tables, in increasing order of their names. -/
def tables (catalog : Catalog) : List Table :=
  catalog.entries.map Prod.snd

/-- The table with a given name. -/
def table? (catalog : Catalog) (name : String) : Option Table :=
  catalog.entries.lookup name

/-- Whether there is a table with a given name. -/
def hasTable (catalog : Catalog) (name : String) : Bool :=
  catalog.entries.any (·.1 = name)

/-- The columns of a table, in order. -/
def columns? (catalog : Catalog) (table : String) : Option (List Column) :=
  (catalog.table? table).map Table.columns

/-- The column of a table with a given name. -/
def column? (catalog : Catalog) (table column : String) : Option Column :=
  (catalog.table? table).bind (·.column? column)

/-- Whether a table has a column; a table that is not in the catalog has none. -/
def hasColumn (catalog : Catalog) (table column : String) : Bool :=
  (catalog.table? table).any (·.hasColumn column)

/-- The names of the tables, which are sorted. -/
def tableNames (catalog : Catalog) : List String :=
  NameOrder.sort (catalog.entries.map Prod.fst)

/-- The number of tables. -/
def size (catalog : Catalog) : Nat :=
  catalog.entries.length

end Catalog

end TableGateway
