import TableGateway.Catalog.Schema
import TableGateway.Proofs.Catalog.Coherence
import TableGateway.Proofs.Outcome

/-!
# Declared catalogs

A schema is sound if it has the supported version, each of its tables has a column, no table
has two columns of one name, and each type that is given is known. Exactly the sound schemas
are accepted, and nothing of them is lost: the catalog has the declared tables, and each
table has the declared columns in the declared order.

Of the faults of an unsound schema, the first one is reported: that of the version, or else
that of the table whose name comes first, and in it that of the column that is declared
first. Of the two faults that a column can have, the repeated name comes before the type.
-/

namespace TableGateway

open Outcome

/-! ### Types -/

/-- The spellings of a column type: its name and its synonyms. -/
def ColumnType.spellings : ColumnType → List String
  | string => ["string", "text"]
  | int => ["int", "integer"]
  | bigint => ["bigint"]
  | float => ["float", "double"]
  | decimal => ["decimal", "numeric"]
  | boolean => ["boolean", "bool"]
  | json => ["json", "jsonb"]
  | timestamp => ["timestamp", "date"]
  | time => ["time"]
  | uuid => ["uuid"]
  | bytes => ["bytes"]

theorem ColumnType.ofDeclared?_eq_some_iff {text : String} {type : ColumnType} :
  ofDeclared? text = some type ↔ text ∈ type.spellings
  := by
  constructor
  · intro h
    unfold ofDeclared? at h
    split at h
    case h_8 =>
      -- No synonym: the text is the name of the type.
      rw [ofName?] at h
      have hname : type.name = text := by simpa using List.find?_some h
      rw [← hname]
      cases type <;> decide
    all_goals
      cases h
      decide
  · have hall : ∀ text ∈ type.spellings, ofDeclared? text = some type := by
      cases type <;> decide
    apply hall

namespace ColumnDeclaration

/-- A declared column has a type: the one that it gives, or strings if it gives none. -/
def HasType (column : ColumnDeclaration) (type : ColumnType) : Prop :=
  match column.type with
  | none => type = .string
  | some text => text ∈ type.spellings

/-- A declared column has a type at all. -/
def Typed (column : ColumnDeclaration) : Prop :=
  ∃ type, column.HasType type

/-- A column is the declared one. -/
structure Declares (declared : ColumnDeclaration) (column : Column) : Prop where
  name : declared.name = column.name
  type : declared.HasType column.type

/-- What is wrong with a column that is declared after columns with given names. -/
inductive Fault (table : String) (earlier : List String) (column : ColumnDeclaration) :
    SchemaError → Prop where
  | duplicate (repeated : column.name ∈ earlier) :
      Fault table earlier column (.duplicateColumn table column.name)
  | unknownType {text : String} (new : column.name ∉ earlier) (given : column.type = some text)
      (unknown : ∀ type : ColumnType, text ∉ type.spellings) :
      Fault table earlier column (.unknownType column.name text)

variable {column : ColumnDeclaration} {table : String} {earlier : List String} {e : SchemaError}

theorem checkType_eq_ok_iff {type : ColumnType} :
  column.checkType = .ok type ↔ column.HasType type
  := by
  rw [checkType, HasType]
  cases column.type with
  | none => simp [eq_comm]
  | some text =>
      simp only [← ColumnType.ofDeclared?_eq_some_iff]
      cases ColumnType.ofDeclared? text <;> simp

theorem checkType_eq_error_iff :
  column.checkType = .error e
    ↔ ∃ text, column.type = some text ∧ (∀ type : ColumnType, text ∉ type.spellings)
      ∧ .unknownType column.name text = e
  := by
  rw [checkType]
  cases column.type with
  | none => simp
  | some text =>
      simp only [← ColumnType.ofDeclared?_eq_some_iff, Option.some.injEq, exists_eq_left']
      cases ColumnType.ofDeclared? text <;> simp

/-- Only which names come earlier matters. -/
theorem Fault.congr
    {others : List String} (h : ∀ name, name ∈ earlier ↔ name ∈ others) :
  column.Fault table earlier e ↔ column.Fault table others e
  := by
  constructor
  · rintro (hrepeated | ⟨hnew, hgiven, hunknown⟩)
    · apply Fault.duplicate ((h _).mp hrepeated)
    · apply Fault.unknownType (mt (h _).mpr hnew) hgiven hunknown
  · rintro (hrepeated | ⟨hnew, hgiven, hunknown⟩)
    · apply Fault.duplicate ((h _).mpr hrepeated)
    · apply Fault.unknownType (mt (h _).mp hnew) hgiven hunknown

theorem fault_cons_append_iff {name : String} {names : List String} :
  column.Fault table (name :: names ++ earlier) e ↔ column.Fault table (names ++ name :: earlier) e
  := Fault.congr fun _ => List.perm_middle.symm.mem_iff

end ColumnDeclaration

/-! ### Columns -/

namespace TableDeclaration

/-- Declared columns are sound after columns with given names: they have types, and names
that are different and new. -/
structure SoundAfter (seen : List String) (columns : List ColumnDeclaration) : Prop where
  nodup : (columns.map ColumnDeclaration.name).Nodup
  new : ∀ column ∈ columns, column.name ∉ seen
  typed : ∀ column ∈ columns, column.Typed

variable {table : String} {seen : List String} {e : SchemaError}

theorem soundAfter_nil :
  SoundAfter seen []
  := by
  constructor <;> simp

theorem soundAfter_cons_iff {column : ColumnDeclaration} {rest : List ColumnDeclaration} :
  SoundAfter seen (column :: rest)
    ↔ column.name ∉ seen ∧ column.Typed ∧ SoundAfter (column.name :: seen) rest
  := by
  constructor
  · rintro ⟨hnodup, hnew, htyped⟩
    rw [List.map_cons, List.nodup_cons] at hnodup
    rw [List.forall_mem_cons] at hnew htyped
    use hnew.1, htyped.1
    constructor
    case nodup => apply hnodup.2
    case new =>
      intro other hother
      rw [List.mem_cons, not_or]
      constructor
      · intro h
        apply hnodup.1
        rw [← h]
        apply List.mem_map_of_mem hother
      · apply hnew.2 other hother
    case typed => apply htyped.2
  · rintro ⟨hname, hfirst, hnodup, hnew, htyped⟩
    constructor
    case nodup =>
      rw [List.map_cons, List.nodup_cons]
      constructor
      · intro h
        obtain ⟨other, hother, hsame⟩ := List.mem_map.mp h
        apply hnew other hother
        rw [hsame]
        apply List.mem_cons_self
      · apply hnodup
    case new =>
      rw [List.forall_mem_cons]
      use hname
      intro other hother hseen
      apply hnew other hother (List.mem_cons_of_mem _ hseen)
    case typed =>
      rw [List.forall_mem_cons]
      use hfirst

/-- The columns are exactly those of sound declarations. -/
theorem checkColumns_eq_ok_iff {declared : List ColumnDeclaration} {columns : List Column} :
  checkColumns table seen declared = .ok columns
    ↔ SoundAfter seen declared ∧ List.Forall₂ ColumnDeclaration.Declares declared columns
  := by
  induction declared generalizing seen columns with
  | nil =>
      rw [checkColumns, List.forall₂_nil_left_iff]
      simp [soundAfter_nil, eq_comm]
  | cons column rest ih =>
      rw [checkColumns, check_eq_ok_iff, List.contains_iff_mem, soundAfter_cons_iff,
        List.forall₂_cons_left_iff]
      simp only [bind_eq_ok_iff, ColumnDeclaration.checkType_eq_ok_iff, ih, pure_eq_ok_iff]
      constructor
      · rintro ⟨hname, type, htype, others, ⟨hsound, hothers⟩, rfl⟩
        use ⟨hname, ⟨type, htype⟩, hsound⟩, ⟨column.name, type⟩, others, ⟨rfl, htype⟩, hothers
      · rintro ⟨⟨hname, -, hsound⟩, ⟨name, type⟩, others, ⟨rfl, htype⟩, hothers, rfl⟩
        use hname, type, htype, others, ⟨hsound, hothers⟩

/-- The error of columns is that of the first of them, or it is that of the others. -/
theorem checkColumns_cons_eq_error_iff
    {column : ColumnDeclaration} {rest : List ColumnDeclaration} :
  checkColumns table seen (column :: rest) = .error e
    ↔ column.Fault table seen e
      ∨ column.name ∉ seen ∧ column.Typed ∧ checkColumns table (column.name :: seen) rest = .error e
  := by
  rw [checkColumns, check_eq_error_iff, List.contains_iff_mem, bind_eq_error_iff,
    ColumnDeclaration.checkType_eq_error_iff]
  simp only [bind_eq_error_iff, ColumnDeclaration.Typed, ColumnDeclaration.checkType_eq_ok_iff]
  constructor
  · rintro (⟨hname, rfl⟩ | ⟨hname, ⟨text, hgiven, hunknown, rfl⟩ | ⟨type, htype, h | ⟨_, _, h⟩⟩⟩)
    · left
      apply ColumnDeclaration.Fault.duplicate hname
    · left
      apply ColumnDeclaration.Fault.unknownType hname hgiven hunknown
    · right
      use hname, ⟨type, htype⟩
    · cases h
  · rintro ((hname | ⟨hname, hgiven, hunknown⟩) | ⟨hname, ⟨type, htype⟩, h⟩)
    · left
      use hname
    · right
      use hname
      left
      exact ⟨_, hgiven, hunknown, rfl⟩
    · right
      use hname
      right
      use type, htype
      left
      apply h

/-- The error of columns is that of the first one that is at fault. -/
theorem checkColumns_eq_error_iff {declared : List ColumnDeclaration} :
  checkColumns table seen declared = .error e
    ↔ ∃ before column after, declared = before ++ column :: after ∧ SoundAfter seen before
      ∧ column.Fault table (before.map ColumnDeclaration.name ++ seen) e
  := by
  induction declared generalizing seen with
  | nil => simp [checkColumns]
  | cons first rest ih =>
      rw [checkColumns_cons_eq_error_iff, ih]
      constructor
      · rintro (hfault | ⟨hname, htyped, before, column, after, rfl, hsound, hfault⟩)
        · use [], first, rest, rfl, soundAfter_nil, hfault
        · use first :: before, column, after, rfl, soundAfter_cons_iff.mpr ⟨hname, htyped, hsound⟩
          apply ColumnDeclaration.fault_cons_append_iff.mpr hfault
      · rintro ⟨before, column, after, hsplit, hsound, hfault⟩
        cases before with
        | nil =>
            cases hsplit
            left
            apply hfault
        | cons _ before =>
            cases hsplit
            obtain ⟨hname, htyped, hsound⟩ := soundAfter_cons_iff.mp hsound
            right
            use hname, htyped, before, column, after, rfl, hsound
            apply ColumnDeclaration.fault_cons_append_iff.mp hfault

end TableDeclaration

/-! ### What is kept -/

/-- Columns of different names are all kept. -/
theorem Table.columns_ofColumns
    {name : String} {columns : List Column} (h : (columns.map Column.name).Nodup) :
  (ofColumns name columns).columns = columns
  := by
  have hkeeps : Column.KeepsFirst columns columns := by
    constructor
    case mem_iff =>
      intro column
      rw [NameOrder.find?_eq_some_iff h]
      simp
    case order => apply (eraseDups_of_nodup h).symm
    case nodup => apply h
  apply hkeeps.eq_keep.symm

theorem Table.ofColumns_self (table : Table) :
  ofColumns table.name table.columns = table
  := by
  apply eq_of_columns
  · rfl
  · apply columns_ofColumns table.nodup

/-- Tables that are in order already are all kept. -/
theorem Catalog.tables_ofTables
    {tables : List Table} (h : tables.Pairwise (·.name < ·.name)) :
  (ofTables tables).tables = tables
  := by
  rw [tables_ofTables_eq_collect, NameOrder.collect_eq_self h]

theorem Catalog.ofTables_self (catalog : Catalog) :
  ofTables catalog.tables = catalog
  := by
  apply ext_tables
  intro table
  rw [tables_ofTables catalog.sorted]

/-! ### Tables -/

namespace TableDeclaration

/-- A declared table is sound: it has a column, its columns have different names, and each
of them has a type. -/
structure Sound (table : TableDeclaration) : Prop where
  nonempty : table.columns ≠ []
  nodup : (table.columns.map ColumnDeclaration.name).Nodup
  typed : ∀ column ∈ table.columns, column.Typed

/-- A table is the declared one: it has the declared columns, in the declared order. -/
structure Declares (declared : TableDeclaration) (table : Table) : Prop where
  name : declared.name = table.name
  columns : List.Forall₂ ColumnDeclaration.Declares declared.columns table.columns

/-- The first fault of a table that is not sound. The columns before the one at fault have
different names, and types. -/
inductive FirstFault (table : TableDeclaration) : SchemaError → Prop where
  | noColumns (empty : table.columns = []) : FirstFault table (.noColumns table.name)
  | column {before after : List ColumnDeclaration} {column : ColumnDeclaration} {e : SchemaError}
      (split : table.columns = before ++ column :: after)
      (nodup : (before.map ColumnDeclaration.name).Nodup)
      (typed : ∀ column ∈ before, column.Typed)
      (fault : column.Fault table.name (before.map ColumnDeclaration.name) e) :
      FirstFault table e

variable {declared : TableDeclaration} {e : SchemaError}

theorem soundAfter_nil_iff {columns : List ColumnDeclaration} :
  SoundAfter [] columns
    ↔ (columns.map ColumnDeclaration.name).Nodup ∧ ∀ column ∈ columns, column.Typed
  := by
  constructor
  · rintro ⟨hnodup, -, htyped⟩
    use hnodup, htyped
  · rintro ⟨hnodup, htyped⟩
    use hnodup, fun _ _ => List.not_mem_nil, htyped

/-- The columns of a declared table have the declared names. -/
theorem map_name_eq_of_declares
    {columns : List ColumnDeclaration} {others : List Column}
    (h : List.Forall₂ ColumnDeclaration.Declares columns others) :
  columns.map ColumnDeclaration.name = others.map Column.name
  := map_eq_map_of_forall₂ (fun _ _ hcolumn => hcolumn.name) h

/-- A table is kept exactly as it is declared. -/
theorem check_eq_ok_iff {table : Table} :
  declared.check = .ok table ↔ declared.Sound ∧ declared.Declares table
  := by
  rw [check, Outcome.check_eq_ok_iff, List.isEmpty_iff, bind_eq_ok_iff]
  simp only [checkColumns_eq_ok_iff, soundAfter_nil_iff, pure_eq_ok_iff]
  constructor
  · rintro ⟨hnonempty, columns, ⟨⟨hnodup, htyped⟩, hcolumns⟩, rfl⟩
    use ⟨hnonempty, hnodup, htyped⟩
    rw [map_name_eq_of_declares hcolumns] at hnodup
    constructor
    case name => rfl
    case columns =>
      rw [Table.columns_ofColumns hnodup]
      apply hcolumns
  · rintro ⟨⟨hnonempty, hnodup, htyped⟩, ⟨hname, hcolumns⟩⟩
    use hnonempty, table.columns, ⟨⟨hnodup, htyped⟩, hcolumns⟩
    rw [hname, Table.ofColumns_self]

/-- The error of a table is its first fault. -/
theorem check_eq_error_iff :
  declared.check = .error e ↔ declared.FirstFault e
  := by
  rw [check, Outcome.check_eq_error_iff, List.isEmpty_iff, bind_eq_error_iff]
  simp only [checkColumns_eq_error_iff, List.append_nil, soundAfter_nil_iff]
  constructor
  · rintro (⟨hempty, rfl⟩ |
      ⟨-, ⟨before, column, after, hsplit, ⟨hnodup, htyped⟩, hfault⟩ | ⟨_, _, h⟩⟩)
    · apply FirstFault.noColumns hempty
    · apply FirstFault.column hsplit hnodup htyped hfault
    · cases h
  · rintro (hempty | ⟨hsplit, hnodup, htyped, hfault⟩)
    · left
      use hempty
    · right
      constructor
      · rw [hsplit]
        simp
      · left
        exact ⟨_, _, _, hsplit, ⟨hnodup, htyped⟩, hfault⟩

/-- There is a table of every sound declaration. -/
theorem exists_check_iff :
  (∃ table, declared.check = .ok table) ↔ declared.Sound
  := by
  constructor
  · rintro ⟨table, h⟩
    apply (check_eq_ok_iff.mp h).1
  · intro hsound
    obtain ⟨columns, hcolumns⟩ : ∃ columns,
        List.Forall₂ ColumnDeclaration.Declares declared.columns columns := by
      apply exists_forall₂_iff.mpr
      intro column hcolumn
      obtain ⟨type, htype⟩ := hsound.typed column hcolumn
      use ⟨column.name, type⟩, rfl
    have hnodup := hsound.nodup
    rw [map_name_eq_of_declares hcolumns] at hnodup
    use Table.ofColumns declared.name columns
    apply check_eq_ok_iff.mpr
    use hsound, rfl
    rw [Table.columns_ofColumns hnodup]
    apply hcolumns

end TableDeclaration

/-! ### Schemas -/

namespace Schema

/-- A schema is sound: it has the supported version, and its tables are sound. -/
structure Sound (schema : Schema) : Prop where
  version : schema.version = 1
  tables : ∀ table ∈ schema.tables, table.Sound

/-- A catalog has exactly the declared tables. -/
def Declares (schema : Schema) (catalog : Catalog) : Prop :=
  List.Forall₂ TableDeclaration.Declares schema.tables catalog.tables

/-- The first fault of a schema that is not sound. All tables whose names have smaller octets
than that of the table at fault are sound. -/
inductive FirstFault (schema : Schema) : SchemaError → Prop where
  | version (unsupported : schema.version ≠ 1) :
      FirstFault schema (.unsupportedVersion schema.version)
  | table {table : TableDeclaration} {e : SchemaError} (supported : schema.version = 1)
      (mem : table ∈ schema.tables)
      (smaller : ∀ other ∈ schema.tables,
        Text.utf8Octets other.name.toList < Text.utf8Octets table.name.toList → other.Sound)
      (fault : table.FirstFault e) :
      FirstFault schema e

variable {schema : Schema} {e : SchemaError}

/-- The tables of a declared catalog have the declared names. -/
theorem map_name_eq_of_declares
    {declared : List TableDeclaration} {tables : List Table}
    (h : List.Forall₂ TableDeclaration.Declares declared tables) :
  declared.map TableDeclaration.name = tables.map Table.name
  := map_eq_map_of_forall₂ (fun _ _ htable => htable.name) h

/-- The tables of a declared catalog are in order. -/
theorem pairwise_of_declares
    {tables : List Table} (h : List.Forall₂ TableDeclaration.Declares schema.tables tables) :
  tables.Pairwise (·.name < ·.name)
  := by
  have hsorted := List.pairwise_map.mpr schema.sorted
  rw [map_name_eq_of_declares h] at hsorted
  apply List.pairwise_map.mp hsorted

theorem sound_iff :
  schema.Sound ↔ schema.version = supportedVersion ∧ ∀ table ∈ schema.tables, table.Sound
  := by
  constructor
  · rintro ⟨hversion, htables⟩
    use hversion, htables
  · rintro ⟨hversion, htables⟩
    use hversion, htables

/-- A catalog is made of exactly what a sound schema declares. -/
theorem check_eq_ok_iff {catalog : Catalog} :
  schema.check = .ok catalog ↔ schema.Sound ∧ schema.Declares catalog
  := by
  rw [check, Outcome.check_eq_ok_iff, not_not, bind_eq_ok_iff, sound_iff, Declares]
  simp only [mapM_eq_ok_iff, TableDeclaration.check_eq_ok_iff, List.forall₂_and_left,
    pure_eq_ok_iff]
  constructor
  · rintro ⟨hversion, tables, ⟨hsound, htables⟩, rfl⟩
    rw [Catalog.tables_ofTables (pairwise_of_declares htables)]
    use ⟨hversion, hsound⟩
  · rintro ⟨⟨hversion, hsound⟩, htables⟩
    use hversion, catalog.tables, ⟨hsound, htables⟩, catalog.ofTables_self

/-- The error of a schema is its first fault. -/
theorem check_eq_error_iff :
  schema.check = .error e ↔ schema.FirstFault e
  := by
  rw [check, Outcome.check_eq_error_iff, not_not, bind_eq_error_iff, mapM_eq_error_iff]
  simp only [TableDeclaration.exists_check_iff, TableDeclaration.check_eq_error_iff]
  constructor
  · rintro (⟨hversion, rfl⟩ |
      ⟨hversion, ⟨before, table, after, hsplit, hbefore, hfault⟩ | ⟨_, _, h⟩⟩)
    · apply FirstFault.version hversion
    · have hsorted := schema.sorted
      rw [hsplit] at hsorted
      apply FirstFault.table hversion _ _ hfault
      · rw [hsplit]
        simp
      · intro other hother hlt
        rw [hsplit] at hother
        rw [Text.utf8Octets_lt_utf8Octets_iff] at hlt
        apply hbefore other ((NameOrder.mem_before_iff hsorted hother).mpr hlt)
    · cases h
  · rintro (hversion | ⟨hversion, hmem, hsmaller, hfault⟩)
    · left
      use hversion
    · right
      use hversion
      left
      obtain ⟨before, after, hsplit⟩ := List.append_of_mem hmem
      have hsorted := schema.sorted
      rw [hsplit] at hsorted
      refine ⟨before, _, after, hsplit, ?_, hfault⟩
      intro other hother
      have hmember : other ∈ schema.tables := by
        rw [hsplit]
        apply List.mem_append_left _ hother
      apply hsmaller other hmember
      rw [hsplit] at hmember
      rw [Text.utf8Octets_lt_utf8Octets_iff]
      apply (NameOrder.mem_before_iff hsorted hmember).mp hother

/-- There is a catalog of every sound schema. -/
theorem exists_check_iff :
  (∃ catalog, schema.check = .ok catalog) ↔ schema.Sound
  := by
  constructor
  · rintro ⟨catalog, h⟩
    apply (check_eq_ok_iff.mp h).1
  · intro hsound
    obtain ⟨tables, htables⟩ : ∃ tables,
        List.Forall₂ (fun table made => table.check = .ok made) schema.tables tables := by
      apply exists_forall₂_iff.mpr
      intro table htable
      apply TableDeclaration.exists_check_iff.mpr (hsound.tables table htable)
    simp only [TableDeclaration.check_eq_ok_iff, List.forall₂_and_left] at htables
    use Catalog.ofTables tables
    apply check_eq_ok_iff.mpr
    rw [Declares, Catalog.tables_ofTables (pairwise_of_declares htables.2)]
    use hsound, htables.2

/-- A schema is accepted exactly if it is sound. Then the catalog has exactly the declared
tables, each with exactly the declared columns in the declared order. Otherwise the error is
the first fault of the schema. -/
theorem checked_completely (schema : Schema) :
  ((∃ catalog, schema.check = .ok catalog) ↔ schema.Sound)
    ∧ (∀ catalog, schema.check = .ok catalog ↔ schema.Sound ∧ schema.Declares catalog)
    ∧ ∀ e, schema.check = .error e ↔ schema.FirstFault e
  := by
  use exists_check_iff, fun _ => check_eq_ok_iff, fun _ => check_eq_error_iff

/-- Of two faulty tables and three faulty columns the first are reported. -/
example :
    (Schema.check ⟨1, [
      ⟨"authors", [⟨"id", some "int"⟩, ⟨"id", some "word"⟩, ⟨"name", some "word"⟩]⟩,
      ⟨"books", []⟩], by decide⟩) = .error (.duplicateColumn "authors" "id")
  := rfl

end Schema

end TableGateway
