import TableGateway.Proofs.Sql.Building

/-!
# What references mean

A qualified reference means the column of its name in the table that it is qualified by,
which must be one of the query's tables. An unqualified reference means the column of its
name in the one table of the query that has such a column.

The builders look a reference up by collecting candidates; when the query names each of
its tables once, that finds a column exactly when the reference means it.
-/

namespace TableGateway

open Outcome

/-- A function gives just one value on a list of different elements when it is defined at
one of them and at no other. -/
theorem filterMap_eq_singleton_iff
    {α β : Type} {f : α → Option β} {xs : List α} (hxs : xs.Nodup) {y : β} :
  xs.filterMap f = [y]
    ↔ ∃ x ∈ xs, f x = some y ∧ ∀ other ∈ xs, (f other).isSome = true → other = x
  := by
  induction xs with
  | nil => simp
  | cons first rest ih =>
      rw [List.nodup_cons] at hxs
      cases hfirst : f first with
      | none =>
          rw [List.filterMap_cons_none hfirst, ih hxs.2]
          constructor
          · rintro ⟨x, hx, hfx, hothers⟩
            use x, List.mem_cons_of_mem first hx, hfx
            rw [List.forall_mem_cons]
            constructor
            · simp [hfirst]
            · apply hothers
          · rintro ⟨x, hx, hfx, hothers⟩
            rcases List.mem_cons.mp hx with rfl | hx
            · rw [hfirst] at hfx
              cases hfx
            · use x, hx, hfx
              intro other hother
              apply hothers other (List.mem_cons_of_mem first hother)
      | some z =>
          rw [List.filterMap_cons_some hfirst, List.cons.injEq, List.filterMap_eq_nil_iff]
          constructor
          · rintro ⟨rfl, hrest⟩
            use first, List.mem_cons_self, hfirst
            rw [List.forall_mem_cons]
            constructor
            · intro _
              rfl
            · intro other hother hsome
              rw [hrest other hother] at hsome
              cases hsome
          · rintro ⟨x, hx, hfx, hothers⟩
            obtain rfl := hothers first List.mem_cons_self (by rw [hfirst]; rfl)
            rw [hfirst] at hfx
            use Option.some.inj hfx
            intro other hother
            by_contra hsome
            have hsame := hothers other (List.mem_cons_of_mem first hother)
              (Option.isSome_iff_ne_none.mpr hsome)
            subst hsame
            apply hxs.1 hother

namespace Query

/-- The column that a reference means: for a qualified one the column of the table that it
is qualified by, if that is one of the query's, and otherwise the column of the one table
of the query that has a column of that name. -/
def Means (query : Query) (catalog : Catalog) (reference : ColumnRef) (column : Column) : Prop :=
  match reference.qualifier with
  | some qualifier =>
    qualifier ∈ query.tables ∧ catalog.column? qualifier reference.name = some column
  | none =>
    ∃ table ∈ query.tables, catalog.column? table reference.name = some column
      ∧ ∀ other ∈ query.tables, (catalog.column? other reference.name).isSome = true →
        other = table

theorem resolveQualified_eq_ok_iff
    {query : Query} {catalog : Catalog} {qualifier name : String} {column : Column} :
  query.resolveQualified catalog qualifier name = .ok column
    ↔ qualifier ∈ query.tables ∧ catalog.column? qualifier name = some column
  := by
  simp only [resolveQualified, bind_eq_ok_iff, Catalog.requireTable_eq_ok_iff,
    Catalog.column?_eq_some_iff, includesTable, List.contains_iff_mem]
  constructor
  · rintro ⟨table, htable, h⟩
    split at h
    · rename_i hmem
      use hmem, table, htable, Table.requireColumn_eq_ok_iff.mp h
    · cases h
  · rintro ⟨hmem, table, htable, hcolumn⟩
    use table, htable
    rw [if_pos hmem]
    apply Table.requireColumn_eq_ok_iff.mpr hcolumn

theorem resolveName_eq_ok_iff
    {query : Query} {catalog : Catalog} {name : String} {column : Column} :
  query.resolveName catalog name = .ok column
    ↔ (∃ table, catalog.table? query.table = some table)
      ∧ query.candidates catalog name = [column]
  := by
  simp only [resolveName, bind_eq_ok_iff, Catalog.requireTable_eq_ok_iff, exists_and_right]
  apply and_congr_right
  intro _
  split
  · rename_i found hfound
    rw [hfound, pure_eq_ok_iff, List.cons.injEq, and_iff_left rfl]
  · rename_i hfound
    rw [hfound]
    constructor
    · intro h
      cases h
    · intro h
      cases h
  · rename_i hsingle _
    constructor
    · intro h
      cases h
    · intro h
      cases hsingle column h

/-- A reference is looked up successfully exactly when it means a column. -/
theorem resolve_eq_ok_iff
    {query : Query} {catalog : Catalog} (hquery : query.WellFormed)
    (htable : ∃ table, catalog.table? query.table = some table)
    {reference : ColumnRef} {column : Column} :
  query.resolve catalog reference = .ok column ↔ query.Means catalog reference column
  := by
  rw [resolve, Means]
  cases reference.qualifier with
  | some qualifier => apply resolveQualified_eq_ok_iff
  | none =>
      simp only [resolveName_eq_ok_iff, candidates, and_iff_right htable]
      apply filterMap_eq_singleton_iff hquery.nodup_tables

end Query

end TableGateway
