import TableGateway.Proofs.Catalog.Lookup
import TableGateway.Proofs.Text.OctetOrder

/-!
# Coherent lookups

A table keeps the first column of each name that is listed for it, and a catalog the last
table that is listed under each name. Whatever is listed, all lookups agree on this: a table
or a column that exists for one of them exists for the others, and what is found is what was
listed first or last.
-/

namespace TableGateway

/-! ### The first column of each name -/

namespace Column

/-- The columns that are kept of listed ones are the first of each name, in the order in which
the names are listed. -/
structure KeepsFirst (listed kept : List Column) : Prop where
  mem_iff : ∀ column, column ∈ kept ↔ listed.find? (·.name = column.name) = some column
  order : kept.map name = (listed.map name).eraseDups
  nodup : (kept.map name).Nodup

/-! One more column is looked at: what is kept changes as if the column stood behind those that
were listed before. -/

theorem keep_append_singleton (listed : List Column) (column : Column) :
  keep (listed ++ [column]) = (keep listed).add column
  := List.foldl_append

/-- Only for a name that has not been met the new column is found. -/
theorem Kept.Consistent.find?_add
    {kept : Kept} (h : kept.Consistent) (column : Column) (key : String) :
  (kept.add column).columns.find? (·.name = key)
    = (kept.columns.find? (·.name = key)).or ([column].find? (·.name = key))
  := by
  rw [Kept.columns_add]
  split
  · rename_i hmet
    rw [h.contains_iff, List.mem_map] at hmet
    obtain ⟨earlier, hearlier, hname⟩ := hmet
    by_cases hkey : column.name = key
    · have hsome : (kept.columns.find? (·.name = key)).isSome = true := by
        rw [List.find?_isSome]
        use earlier, hearlier
        rw [decide_eq_true_eq, hname, hkey]
      rw [Option.or_of_isSome hsome]
    · rw [List.find?_singleton, if_neg (by simpa using hkey), Option.or_none]
  · rw [List.find?_append]

/-- One more name is kept if it is new. -/
theorem Kept.Consistent.map_name_add {kept : Kept} (h : kept.Consistent) (column : Column) :
  (kept.add column).columns.map name
    = if column.name ∈ kept.columns.map name then kept.columns.map name
      else kept.columns.map name ++ [column.name]
  := by
  simp only [Kept.columns_add, h.contains_iff, apply_ite (List.map name), List.map_append,
    List.map_singleton]

/-- A name is looked up to the first of the listed columns that has it. -/
theorem find?_keep (listed : List Column) (key : String) :
  (keep listed).columns.find? (·.name = key) = listed.find? (·.name = key)
  := by
  induction listed using List.reverseRecOn with
  | nil => rfl
  | append_singleton listed column ih =>
      rw [keep_append_singleton, (consistent_keep listed).find?_add, ih, List.find?_append]

/-- The names are kept in the order in which they first appear. -/
theorem map_name_keep (listed : List Column) :
  (keep listed).columns.map name = (listed.map name).eraseDups
  := by
  induction listed using List.reverseRecOn with
  | nil => rfl
  | append_singleton listed column ih =>
      rw [keep_append_singleton, (consistent_keep listed).map_name_add, ih, List.map_append,
        List.map_singleton, eraseDups_append_singleton]
      simp only [List.mem_eraseDups]

/-- Of columns with one name the first is kept. -/
theorem keepsFirst_keep (listed : List Column) :
  KeepsFirst listed (keep listed).columns
  := by
  have hnodup := (consistent_keep listed).nodup
  constructor
  case mem_iff =>
    intro column
    rw [← find?_keep, NameOrder.find?_eq_some_iff hnodup]
    simp
  case order => apply map_name_keep
  case nodup => apply hnodup

/-- What is kept of listed columns is determined by them. -/
theorem KeepsFirst.eq_keep {listed kept : List Column} (h : KeepsFirst listed kept) :
  kept = (keep listed).columns
  := by
  have hfound : ∀ {others : List Column}, KeepsFirst listed others →
      others.map some = (listed.map name).eraseDups.map fun key => listed.find? (·.name = key) := by
    intro others hothers
    rw [← hothers.order, List.map_map]
    apply List.map_congr_left
    intro column hcolumn
    apply ((hothers.mem_iff column).mp hcolumn).symm
  apply List.map_injective_iff.mpr fun _ _ => Option.some.inj
  rw [hfound h, hfound (keepsFirst_keep listed)]

end Column

theorem Table.keepsFirst_ofColumns (name : String) (columns : List Column) :
  Column.KeepsFirst columns (ofColumns name columns).columns
  := Column.keepsFirst_keep columns

/-- A name is looked up to the first of the listed columns that has it. -/
theorem Table.column?_ofColumns (name : String) (columns : List Column) (key : String) :
  (ofColumns name columns).column? key = columns.find? (·.name = key)
  := by
  rw [column?_eq_find?]
  apply Column.find?_keep

/-- A table has a column of every name that is listed for it. -/
theorem Table.hasColumn_ofColumns {name key : String} {columns : List Column} :
  (ofColumns name columns).hasColumn key = true ↔ key ∈ columns.map Column.name
  := by
  rw [hasColumn_iff, (keepsFirst_ofColumns name columns).order, List.mem_eraseDups]

/-! ### The last table of each name -/

namespace Catalog

/-- The catalog of tables that are listed by their names, each with its columns. -/
def ofListed (listed : List (String × List Column)) : Catalog :=
  ofTables (listed.map fun (name, columns) => Table.ofColumns name columns)

/-- The columns that are listed last under a name. -/
def lastListed? (listed : List (String × List Column)) (name : String) : Option (List Column) :=
  ((listed.filter (·.1 = name)).getLast?).map Prod.snd

variable (listed : List (String × List Column))

/-- The last of the tables with one name is found. -/
theorem table?_ofListed (name : String) :
  (ofListed listed).table? name = (lastListed? listed name).map (Table.ofColumns name)
  := by
  have hfilter : ((listed.map fun (name, columns) => Table.ofColumns name columns).filter
        (·.name = name))
      = (listed.filter (·.1 = name)).map fun (name, columns) => Table.ofColumns name columns := by
    rw [List.filter_map]
    rfl
  rw [ofListed, table?_ofTables, hfilter, List.getLast?_map, lastListed?, Option.map_map]
  cases hlast : (listed.filter (·.1 = name)).getLast? with
  | none => rfl
  | some last =>
      have hname : last.1 = name := by
        simpa using (List.mem_filter.mp (List.mem_of_getLast? hlast)).2
      rw [← hname]
      rfl

theorem isSome_lastListed? {name : String} :
  (lastListed? listed name).isSome = true ↔ name ∈ listed.map Prod.fst
  := by
  rw [lastListed?, Option.isSome_map, List.getLast?_isSome]
  simp [List.filter_eq_nil_iff]

/-- The catalog has a table for just the names that are listed. -/
theorem hasTable_ofListed {name : String} :
  (ofListed listed).hasTable name = true ↔ name ∈ listed.map Prod.fst
  := by
  rw [hasTable_iff, ← Option.isSome_iff_exists, table?_ofListed, Option.isSome_map,
    isSome_lastListed?]

/-- The columns of a table are those that are kept of the last that is listed. -/
theorem columns?_ofListed (name : String) :
  (ofListed listed).columns? name
    = (lastListed? listed name).map fun columns => (Column.keep columns).columns
  := by
  rw [columns?, table?_ofListed, Option.map_map]
  rfl

/-- A column is found as the first of its name in the last table of its name. -/
theorem column?_ofListed (table name : String) :
  (ofListed listed).column? table name
    = (lastListed? listed table).bind fun columns => columns.find? (·.name = name)
  := by
  rw [column?, table?_ofListed]
  cases lastListed? listed table with
  | none => rfl
  | some columns => apply Table.column?_ofColumns

/-- A column is there exactly if it is listed in the last table of its name. -/
theorem hasColumn_ofListed {table name : String} :
  (ofListed listed).hasColumn table name = true
    ↔ ∃ columns, lastListed? listed table = some columns ∧ name ∈ columns.map Column.name
  := by
  rw [hasColumn, table?_ofListed]
  cases lastListed? listed table with
  | none => simp
  | some columns => simp [Table.hasColumn_ofColumns]

/-! ### Lookups that agree -/

/-- The lookups of a catalog agree with each other, and its tables are named in increasing
order of their octets. -/
structure Coherent (catalog : Catalog) : Prop where
  hasColumn_iff : ∀ table name, catalog.hasColumn table name = true
    ↔ (catalog.column? table name).isSome = true
  mem_columns_iff : ∀ table name, (catalog.column? table name).isSome = true
    ↔ ∃ columns, catalog.columns? table = some columns ∧ name ∈ columns.map Column.name
  mem_tableNames_iff : ∀ name, name ∈ catalog.tableNames ↔ catalog.hasTable name = true
  increasing : catalog.tableNames.Pairwise fun name other =>
    Text.utf8Octets name.toList < Text.utf8Octets other.toList
  length_tableNames : catalog.tableNames.length = catalog.size

/-- Every catalog is coherent. -/
theorem coherent (catalog : Catalog) :
  catalog.Coherent
  := by
  constructor
  case hasColumn_iff =>
    intro table name
    rw [isSome_column?]
  case mem_columns_iff =>
    intro table name
    rw [isSome_column?, hasColumn, columns?]
    cases catalog.table? table with
    | none => simp
    | some found => simp [Table.hasColumn_iff]
  case mem_tableNames_iff =>
    intro name
    rw [tableNames, (NameOrder.perm_sort _).mem_iff, hasTable, List.any_eq_true, List.mem_map]
    simp only [decide_eq_true_eq]
  case increasing =>
    -- Sorting alone is not enough: no two entries have one key.
    apply (NameOrder.pairwise_sort (NameOrder.nodup_of_pairwise catalog.ordered)).imp
    intro name other hlt
    apply Text.utf8Octets_lt_utf8Octets_iff.mpr hlt
  case length_tableNames =>
    rw [tableNames, (NameOrder.perm_sort _).length_eq, List.length_map, size]

/-- Whatever tables are listed, and whatever columns are listed for them: exactly the listed
names are those of tables, and each is looked up to the last table that is listed under it. A
table keeps the first column of each name that is listed for it, has a column of each of these
names and of no other, and looks a name up to the first column that is listed under it. All
lookups agree on which tables and columns there are. -/
theorem lookups_coherent (listed : List (String × List Column)) :
  (∀ name, (ofListed listed).hasTable name = true ↔ name ∈ listed.map Prod.fst)
    ∧ (∀ name, (ofListed listed).table? name
      = (lastListed? listed name).map (Table.ofColumns name))
    ∧ (∀ name columns, Column.KeepsFirst columns (Table.ofColumns name columns).columns)
    ∧ (∀ table name, (ofListed listed).column? table name
      = (lastListed? listed table).bind fun columns => columns.find? (·.name = name))
    ∧ (∀ table name, (ofListed listed).hasColumn table name = true
      ↔ ∃ columns, lastListed? listed table = some columns ∧ name ∈ columns.map Column.name)
    ∧ (ofListed listed).Coherent
  := by
  refine ⟨?_, ?_, ?_, ?_, ?_, ?_⟩
  · intro name
    apply hasTable_ofListed
  · apply table?_ofListed
  · apply Table.keepsFirst_ofColumns
  · apply column?_ofListed
  · intro table name
    apply hasColumn_ofListed
  · apply coherent

/-- The last table counts, and in it the first column. -/
example :
    (ofListed [
      ("books", [⟨"id", .int⟩]), ("authors", []),
      ("books", [⟨"title", .string⟩, ⟨"title", .json⟩])]).column? "books" "title"
      = some ⟨"title", .string⟩
  := by decide

end Catalog

end TableGateway
