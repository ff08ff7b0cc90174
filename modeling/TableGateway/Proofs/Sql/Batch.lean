import Mathlib.Data.List.Nodup
import Mathlib.Data.List.Perm.Basic
import TableGateway.Proofs.NameOrder
import TableGateway.Proofs.Sql.Building
import TableGateway.Proofs.Text.OctetOrder

/-!
# Insertions of several rows

A row is a list of members, no two of one name, in any order. An insertion is built exactly
when its rows give values to the same columns of its table, at least one; otherwise the first
row that gives values to others than the first one does is the error.

Its columns are in the order of their octets, whatever the order of the members. Row after row
and column after column, an argument is the value of the row for the column under the type of
the column, and its placeholder stands at that place of the text.
-/

namespace TableGateway

open Outcome

/-! ### Rows of members -/

/-- The members of a row, in any order. -/
def IsRow (row : List (String × Json)) : Prop :=
  (row.map Prod.fst).Nodup

instance (row : List (String × Json)) : Decidable (IsRow row) :=
  inferInstanceAs (Decidable (row.map Prod.fst).Nodup)

/-- Rows that give values to the same columns. -/
def SameNames (row other : List (String × Json)) : Prop :=
  ∀ name, name ∈ row.map Prod.fst ↔ name ∈ other.map Prod.fst

namespace Record

theorem get?_eq_some_iff {record : Record} {name : String} {value : Json} :
  record.get? name = some value ↔ (name, value) ∈ record.fields
  := NameOrder.lookup_eq_some_iff record.sorted

/-- A record has the members that it is made of. -/
theorem mem_fields_ofMembers {row : List (String × Json)} (h : IsRow row) {field : String × Json} :
  field ∈ (ofMembers row).fields ↔ field ∈ row
  := NameOrder.mem_collect_of_nodup h

theorem mem_names_ofMembers {row : List (String × Json)} (h : IsRow row) {name : String} :
  name ∈ (ofMembers row).names ↔ name ∈ row.map Prod.fst
  := by
  simp only [names, List.mem_map, mem_fields_ofMembers h]

theorem fields_ofMembers_ne_nil {row : List (String × Json)} (h : IsRow row) :
  (ofMembers row).fields ≠ [] ↔ row ≠ []
  := by
  rw [ne_eq, ne_eq, not_iff_not, List.eq_nil_iff_forall_not_mem, List.eq_nil_iff_forall_not_mem]
  simp only [mem_fields_ofMembers h]

theorem eq_of_fields {record other : Record} (h : record.fields = other.fields) :
  record = other
  := by
  cases record
  cases other
  cases h
  rfl

theorem sameNames_iff {row other : List (String × Json)} (h : IsRow row) (hother : IsRow other) :
  SameNames row other ↔ ∀ name, name ∈ (ofMembers row).names ↔ name ∈ (ofMembers other).names
  := by
  simp only [SameNames, mem_names_ofMembers h, mem_names_ofMembers hother]

end Record

/-! ### Rows of arguments -/

namespace Statement

/-- A record gives a value to each of some columns and to no others exactly when it has just
their names. That it gives no others is checked by counting. -/
theorem exists_rowOf_iff_names
    {table : Table} {first record : Record} {columns : List Column}
    (hcolumns : table.HasColumns first.names columns) :
  (∃ row, RowOf columns record row) ↔ ∀ name, name ∈ first.names ↔ name ∈ record.names
  := by
  have hall : (∀ column ∈ columns, column.name ∈ record.names) ↔ first.names ⊆ record.names := by
    rw [← hcolumns.map_name, List.subset_def, List.forall_mem_map]
  simp only [exists_rowOf_iff, Record.isSome_get?]
  rw [hall, hcolumns.length_eq, ← Record.length_names]
  constructor
  · rintro ⟨hlength, hsubset⟩ name
    have hperm : first.names.Perm record.names :=
      (List.subperm_of_subset first.nodup_names hsubset).perm_of_length_le (Nat.le_of_eq hlength)
    apply hperm.mem_iff
  · intro hsame
    have hperm : first.names.Perm record.names :=
      (List.perm_ext_iff_of_nodup first.nodup_names record.nodup_names).mpr hsame
    use hperm.length_eq.symm, hperm.subset

/-- What is related to a list has an element at each of its places. -/
theorem exists_getElem?_of_forall₂
    {α β : Type} {R : α → β → Prop} {xs : List α} {ys : List β} (h : List.Forall₂ R xs ys)
    {i : Nat} {x : α} (hx : xs[i]? = some x) :
  ∃ y, ys[i]? = some y ∧ R x y
  := by
  induction h generalizing i with
  | nil => cases hx
  | @cons first other _ _ hfirst _ ih =>
      cases i with
      | zero =>
          cases hx
          use other, rfl, hfirst
      | succ i => apply ih hx

/-- If something fails of an element of a list, there is a first place where it fails. -/
theorem exists_first_not {α : Type} {P : α → Prop} {xs : List α} (h : ∃ x ∈ xs, ¬ P x) :
  ∃ (i : Nat) (x : α), xs[i]? = some x ∧ ¬ P x ∧ ∀ y ∈ xs.take i, P y
  := by
  induction xs with
  | nil => simp at h
  | cons first rest ih =>
      by_cases hfirst : P first
      · rw [List.exists_mem_cons_iff, or_iff_right (not_not_intro hfirst)] at h
        obtain ⟨i, x, hx, hnot, hearlier⟩ := ih h
        use i + 1, x, hx, hnot
        rw [List.take_succ_cons, List.forall_mem_cons]
        use hfirst, hearlier
      · use 0, first, rfl, hfirst
        simp

/-- The arguments of rows of one width are found by row and column. -/
theorem getElem?_flatten_of_length
    {α : Type} {rows : List (List α)} {width : Nat} (h : ∀ row ∈ rows, row.length = width)
    {i j : Nat} {row : List α} (hrow : rows[i]? = some row) (hj : j < width) :
  rows.flatten[i * width + j]? = row[j]?
  := by
  induction rows generalizing i with
  | nil => cases hrow
  | cons first rest ih =>
      rw [List.forall_mem_cons] at h
      rw [List.flatten_cons]
      cases i with
      | zero =>
          rw [List.getElem?_cons_zero, Option.some.injEq] at hrow
          rw [Nat.zero_mul, Nat.zero_add, List.getElem?_append_left (by omega), hrow]
      | succ i =>
          rw [List.getElem?_cons_succ] at hrow
          have hplace : (i + 1) * width + j - first.length = i * width + j := by
            rw [h.1, Nat.succ_mul]
            omega
          rw [List.getElem?_append_right (by rw [h.1, Nat.succ_mul]; omega), hplace,
            ih h.2 hrow]

/-- The argument of a row for a column is the value of the row under the type of the column. -/
theorem exists_argument
    {table : Table} {names : List String} {columns : List Column}
    (hcolumns : table.HasColumns names columns) {records : List Record}
    {arguments : List (List Argument)}
    (harguments : List.Forall₂ (RowOf columns) records arguments)
    {i j : Nat} {record : Record} {name : String} (hrecord : records[i]? = some record)
    (hname : names[j]? = some name) :
  ∃ column value, table.column? name = some column ∧ record.get? name = some value
    ∧ arguments.flatten[i * names.length + j]? = some ⟨value, column.type⟩
  := by
  obtain ⟨column, hcolumn, hfound⟩ := exists_getElem?_of_forall₂ hcolumns hname
  obtain ⟨row, hrow, hrowOf⟩ := exists_getElem?_of_forall₂ harguments hrecord
  obtain ⟨argument, hargument, hgiven⟩ := exists_getElem?_of_forall₂ hrowOf.2 hcolumn
  rw [givenArgument?, Table.name_of_column? hfound] at hgiven
  obtain ⟨value, hvalue, rfl⟩ := Option.map_eq_some_iff.mp hgiven
  have hwidth : ∀ row ∈ arguments, row.length = columns.length := by
    intro other hother
    obtain ⟨record, hrecord⟩ := exists_forall₂_iff.mp ⟨_, harguments.flip⟩ other hother
    apply RowOf.length_eq hrecord
  use column, value, hfound, hvalue
  rw [← hcolumns.length_eq,
    getElem?_flatten_of_length hwidth hrow (List.getElem?_eq_some_iff.mp hcolumn).1, hargument]

/-- The first record that has not the names of the first one is the error. -/
theorem rowArguments_eq_error
    {columns : List Column} {records : List Record} {index : Nat} {record : Record}
    (hrecord : records[index]? = some record) (hnone : ¬ ∃ row, RowOf columns record row)
    (hearlier : ∀ earlier ∈ records.take index, ∃ row, RowOf columns earlier row)
    (start : Nat) :
  rowArguments columns start records = .error (.columnMismatch (start + index))
  := by
  induction records generalizing index start with
  | nil => cases hrecord
  | cons first rest ih =>
      rw [rowArguments]
      cases index with
      | zero =>
          rw [List.getElem?_cons_zero, Option.some.injEq] at hrecord
          have hfirst : recordArguments? columns first = none := by
            rw [Option.eq_none_iff_forall_ne_some, hrecord]
            intro row hrow
            apply hnone ⟨row, recordArguments?_eq_some_iff.mp hrow⟩
          rw [hfirst]
          rfl
      | succ index =>
          rw [List.getElem?_cons_succ] at hrecord
          rw [List.take_succ_cons, List.forall_mem_cons] at hearlier
          obtain ⟨row, hrow⟩ := hearlier.1
          rw [recordArguments?_eq_some_iff.mpr hrow]
          simp only [ih hrecord hearlier.2 (start + 1)]
          rw [Nat.add_assoc, Nat.add_comm 1 index]
          rfl

/-! ### Insertions -/

/-- What an insertion needs of its table and of its first row. -/
structure Accepts (catalog : Catalog) (name : String) (rows : List (List (String × Json)))
    (row : List (String × Json)) : Prop where
  first : rows.head? = some row
  filled : row ≠ []
  columns : ∃ table, catalog.table? name = some table
    ∧ ∀ field ∈ row, table.hasColumn field.1 = true

/-- The text of one row of an insertion into `width` columns: the placeholders whose numbers
follow those of the rows before it. -/
def rowText (width row : Nat) : String :=
  "(" ++ ",".intercalate ((List.range width).map fun column =>
    "$" ++ Number.natText (row * width + column + 1)) ++ ")"

/-- The text of an insertion of `rows` rows into columns. -/
def insertionText (table : String) (columns : List String) (rows : Nat) : String :=
  "INSERT INTO " ++ table ++ " (" ++ ", ".intercalate columns ++ ") VALUES "
    ++ ",".intercalate ((List.range rows).map (rowText columns.length)) ++ " RETURNING id"

theorem tupleText_range' (width row : Nat) :
  Sql.tupleText (List.range' (row * width + 1) width) = rowText width row
  := by
  rw [Sql.tupleText, rowText, List.range'_eq_map_range, List.map_map]
  congr 4
  funext column
  rw [Function.comp_apply, Sql.placeholder, Nat.add_right_comm]

/-- The command of an insertion has the text of an insertion of its rows. -/
theorem text_insert_tuples (table : String) (columns : List String) (rows : Nat) :
  (Sql.Command.insert table columns (tuples rows columns.length)).text
    = insertionText table columns rows
  := by
  have htuples : (tuples rows columns.length).map Sql.tupleText
      = (List.range rows).map (rowText columns.length) := by
    rw [tuples, List.map_map]
    apply List.map_congr_left
    intro row _
    apply tupleText_range'
  rw [Sql.Command.text_insert, htuples]
  rfl

section

variable {catalog : Catalog} {name : String} {rows : List (List (String × Json))}
  {first : List (String × Json)} (hrows : ∀ row ∈ rows, IsRow row)

include hrows

theorem Accepts.isRow (h : Accepts catalog name rows first) :
  IsRow first
  := by
  apply hrows
  apply List.mem_of_mem_head? h.first

/-- The columns of an accepted first row are those of its names. -/
theorem Accepts.exists_hasColumns (h : Accepts catalog name rows first) :
  ∃ table, catalog.table? name = some table
    ∧ ∃ columns, table.HasColumns (Record.ofMembers first).names columns
  := by
  obtain ⟨table, htable, hcolumns⟩ := h.columns
  use table, htable
  apply exists_forall₂_iff.mpr
  intro name hname
  obtain ⟨field, hfield, rfl⟩ :=
    List.mem_map.mp ((Record.mem_names_ofMembers (h.isRow hrows)).mp hname)
  apply Option.isSome_iff_exists.mp
  rw [Table.isSome_column?]
  apply hcolumns field hfield

/-- Once the first row is accepted, a row has its arguments exactly when it gives values to the
columns of the first one. -/
theorem Accepts.exists_rowOf_iff_sameNames
    {table : Table} {columns : List Column} (h : Accepts catalog name rows first)
    (hcolumns : table.HasColumns (Record.ofMembers first).names columns)
    {row : List (String × Json)} (hrow : row ∈ rows) :
  (∃ arguments, RowOf columns (.ofMembers row) arguments) ↔ SameNames first row
  := by
  rw [exists_rowOf_iff_names hcolumns, Record.sameNames_iff (h.isRow hrows) (hrows row hrow)]

/-- Once the first row is accepted, an insertion is built from the arguments of its rows. -/
theorem Accepts.insert_eq
    {table : Table} {columns : List Column} (h : Accepts catalog name rows first)
    (htable : catalog.table? name = some table)
    (hcolumns : table.HasColumns (Record.ofMembers first).names columns) :
  insert catalog name (rows.map .ofMembers)
    = (fun arguments => {
        command := .insert name (columns.map Column.name) (tuples rows.length columns.length)
        arguments }) <$> rowArguments columns 0 (rows.map .ofMembers)
  := by
  have hfields := (Record.fields_ofMembers_ne_nil (h.isRow hrows)).mpr h.filled
  have hread : recordColumns table (.ofMembers first) .insert = .ok columns :=
    recordColumns_eq_ok_iff.mpr ⟨hfields, hcolumns⟩
  obtain ⟨rest, rfl⟩ := List.head?_eq_some_iff.mp h.first
  rw [List.map_cons, insert_cons, Catalog.requireTable_eq_ok_iff.mpr htable]
  change (recordColumns table (.ofMembers first) .insert >>= _) = _
  rw [hread, ← List.map_cons, List.length_map]
  change (rowArguments columns 0 ((first :: rest).map .ofMembers) >>= _) = _
  cases rowArguments columns 0 ((first :: rest).map .ofMembers) <;> rfl

/-- An insertion is built exactly when its first row is accepted and all rows give values to the
same columns. -/
theorem exists_insert_eq_ok_iff :
  (∃ statement, insert catalog name (rows.map .ofMembers) = .ok statement)
    ↔ ∃ first, Accepts catalog name rows first ∧ ∀ row ∈ rows, SameNames first row
  := by
  constructor
  · rintro ⟨statement, h⟩
    obtain ⟨table, htable, record, records, hrecords, hfields, columns, hcolumns, _, harguments,
      -⟩ := insert_eq_ok_iff.mp h
    obtain ⟨first, rest, rfl, rfl, rfl⟩ := List.map_eq_cons_iff.mp hrecords
    have hfirst : IsRow first := hrows first List.mem_cons_self
    have haccepts : Accepts catalog name (first :: rest) first := by
      constructor
      · rfl
      · apply (Record.fields_ofMembers_ne_nil hfirst).mp hfields
      · use table, htable
        intro field hfield
        have hname : field.1 ∈ (Record.ofMembers first).names :=
          (Record.mem_names_ofMembers hfirst).mpr (List.mem_map_of_mem hfield)
        rw [← Table.isSome_column?]
        apply Option.isSome_iff_exists.mpr
        apply exists_forall₂_iff.mp ⟨columns, hcolumns⟩ _ hname
    use first, haccepts
    intro row hrow
    apply (haccepts.exists_rowOf_iff_sameNames hrows hcolumns hrow).mp
    apply exists_forall₂_iff.mp ⟨_, harguments⟩
    apply List.mem_map_of_mem hrow
  · rintro ⟨first, h, hsame⟩
    obtain ⟨table, htable, columns, hcolumns⟩ := h.exists_hasColumns hrows
    have hall : ∀ record ∈ rows.map Record.ofMembers, ∃ row, RowOf columns record row := by
      rw [List.forall_mem_map]
      intro row hrow
      apply (h.exists_rowOf_iff_sameNames hrows hcolumns hrow).mpr (hsame row hrow)
    obtain ⟨arguments, harguments⟩ := exists_forall₂_iff.mpr hall
    have hread : rowArguments columns 0 (rows.map .ofMembers) = .ok arguments.flatten :=
      rowArguments_eq_ok_iff.mpr ⟨arguments, harguments, rfl⟩
    rw [h.insert_eq hrows htable hcolumns, hread]
    use { command := .insert name (columns.map Column.name) (tuples rows.length columns.length)
          arguments := arguments.flatten }
    rfl

/-- Once the first row is accepted, the first row that gives values to other columns is the
error. -/
theorem Accepts.insert_eq_error
    (h : Accepts catalog name rows first) {index : Nat} {row : List (String × Json)}
    (hrow : rows[index]? = some row) (hother : ¬ SameNames first row)
    (hearlier : ∀ earlier ∈ rows.take index, SameNames first earlier) :
  insert catalog name (rows.map .ofMembers) = .error (.columnMismatch index)
  := by
  obtain ⟨table, htable, columns, hcolumns⟩ := h.exists_hasColumns hrows
  have herror : rowArguments columns 0 (rows.map .ofMembers)
      = .error (.columnMismatch (0 + index)) := by
    have hrecord : (rows.map Record.ofMembers)[index]? = some (.ofMembers row) := by
      rw [List.getElem?_map, hrow]
      rfl
    apply rowArguments_eq_error hrecord
    · rw [h.exists_rowOf_iff_sameNames hrows hcolumns (List.mem_of_getElem? hrow)]
      apply hother
    · rw [← List.map_take, List.forall_mem_map]
      intro earlier hmem
      apply (h.exists_rowOf_iff_sameNames hrows hcolumns (List.mem_of_mem_take hmem)).mpr
      apply hearlier earlier hmem
  rw [h.insert_eq hrows htable hcolumns, herror, Nat.zero_add]
  rfl

/-- The columns, the text and the arguments of an insertion of rows: row after row and column
after column. -/
structure LaysOut (catalog : Catalog) (name : String) (rows : List (List (String × Json)))
    (columns : List String) (statement : Statement) : Prop where
  names : ∀ row ∈ rows.head?, ∀ column, column ∈ columns ↔ column ∈ row.map Prod.fst
  order : columns.Pairwise fun column other =>
    Text.utf8Octets column.toList < Text.utf8Octets other.toList
  text : statement.sql = insertionText name columns rows.length
  length : statement.arguments.length = rows.length * columns.length
  values : ∀ i j row column value, rows[i]? = some row → columns[j]? = some column →
    (column, value) ∈ row → statement.values[i * columns.length + j]? = some value
  types : ∀ i j row column, rows[i]? = some row → columns[j]? = some column →
    ∃ found, catalog.column? name column = some found
      ∧ statement.types[i * columns.length + j]? = some found.type

/-- What is built of an insertion lays out its rows. -/
theorem exists_laysOut_of_insert
    {statement : Statement} (h : insert catalog name (rows.map .ofMembers) = .ok statement) :
  ∃ columns, LaysOut catalog name rows columns statement
  := by
  obtain ⟨table, htable, record, records, hrecords, -, columns, hcolumns, arguments, harguments,
    rfl⟩ := insert_eq_ok_iff.mp h
  obtain ⟨first, rest, rfl, rfl, rfl⟩ := List.map_eq_cons_iff.mp hrecords
  have hrecord : ∀ (i : Nat) row, (first :: rest)[i]? = some row →
      ((first :: rest).map Record.ofMembers)[i]? = some (Record.ofMembers row) := by
    intro i row hrow
    rw [List.getElem?_map, hrow]
    rfl
  use (Record.ofMembers first).names
  constructor
  · intro row hrow name
    cases hrow
    apply Record.mem_names_ofMembers (hrows first List.mem_cons_self)
  · rw [Record.names, List.pairwise_map]
    apply (Record.ofMembers first).sorted.imp
    intro field other hlt
    apply Text.utf8Octets_lt_utf8Octets_iff.mpr hlt
  · rw [sql, ← Record.length_names, List.length_map]
    apply text_insert_tuples
  · rw [length_flatten_rows harguments, List.length_map, hcolumns.length_eq]
  · intro i j row name value hrow hname hvalue
    obtain ⟨column, given, -, hgiven, hargument⟩ :=
      exists_argument hcolumns harguments (hrecord i row hrow) hname
    rw [Record.get?_eq_some_iff.mpr ((Record.mem_fields_ofMembers
      (hrows row (List.mem_of_getElem? hrow))).mpr hvalue)] at hgiven
    rw [values, List.getElem?_map, hargument, hgiven]
    rfl
  · intro i j row name hrow hname
    obtain ⟨column, given, hcolumn, -, hargument⟩ :=
      exists_argument hcolumns harguments (hrecord i row hrow) hname
    use column, Catalog.column?_eq_some_iff.mpr ⟨table, htable, hcolumn⟩
    rw [types, List.getElem?_map, hargument]
    rfl

end

/-- For rows given in any order of their members, an insertion is built exactly when the table
is in the catalog and there is a first row, with at least one member and only columns of the
table, whose columns all the rows give values to and no others. If only the last of this fails,
the least row that gives values to other columns is the error. What is built has the columns
in the order of their octets, the placeholders one after the other, and under each of them the
value of the row and the type of the column. -/
theorem insert_batch
    (catalog : Catalog) (name : String) {rows : List (List (String × Json))}
    (hrows : ∀ row ∈ rows, IsRow row) :
  ((∃ statement, insert catalog name (rows.map .ofMembers) = .ok statement)
      ↔ ∃ first, Accepts catalog name rows first ∧ ∀ row ∈ rows, SameNames first row)
    ∧ (∀ first, Accepts catalog name rows first → (∃ row ∈ rows, ¬ SameNames first row) →
      ∃ index row, rows[index]? = some row ∧ ¬ SameNames first row
        ∧ (∀ earlier ∈ rows.take index, SameNames first earlier)
        ∧ insert catalog name (rows.map .ofMembers) = .error (.columnMismatch index))
    ∧ ∀ statement, insert catalog name (rows.map .ofMembers) = .ok statement →
      ∃ columns, LaysOut catalog name rows columns statement
  := by
  refine ⟨exists_insert_eq_ok_iff hrows, ?_, fun statement => exists_laysOut_of_insert hrows⟩
  intro first h hdiffers
  obtain ⟨index, row, hrow, hnot, hearlier⟩ := exists_first_not hdiffers
  use index, row, hrow, hnot, hearlier, h.insert_eq_error hrows hrow hnot hearlier

/-- Two rows for a library, whose members are in different orders. -/
def libraryRows : List (List (String × Json)) := [
  [("year", .number (.integer 1999)), ("title", .string "$1")],
  [("title", .string ""), ("year", .null)]]

/-- The rows for a library are laid out with the titles first. -/
theorem insert_batch_library :
  (∀ row ∈ libraryRows, IsRow row)
    ∧ ∃ statement, insert library "books" (libraryRows.map .ofMembers) = .ok statement
      ∧ statement.sql = "INSERT INTO books (title, year) VALUES ($1,$2),($3,$4) RETURNING id"
      ∧ statement.types = [.string, .int, .string, .int]
      ∧ ∃ columns, LaysOut library "books" libraryRows columns statement
  := by
  have hrows : ∀ row ∈ libraryRows, IsRow row := by
    decide
  have h : (fun statement => (statement.sql, statement.types))
      <$> insert library "books" (libraryRows.map .ofMembers)
        = .ok ("INSERT INTO books (title, year) VALUES ($1,$2),($3,$4) RETURNING id",
          [.string, .int, .string, .int]) := by
    decide +kernel
  obtain ⟨statement, hstatement, hparts⟩ := map_eq_ok_iff.mp h
  obtain ⟨hsql, htypes⟩ := Prod.mk.inj hparts
  use hrows, statement, hstatement, hsql, htypes
  apply (insert_batch library "books" hrows).2.2 statement hstatement

end Statement

end TableGateway
