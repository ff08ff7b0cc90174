import Mathlib.Logic.ExistsUnique
import TableGateway.Proofs.Sql.Guard

/-!
# Selections in scope

Rows are selected exactly when every name of the query is in scope. Each join brings a new
table of the catalog into scope, on the equality of one of its columns with a column of a
table that is in scope already. A column to return and the column of a condition belong to
the table they are qualified by, or to just one of the query's tables. Any other query is
refused for a table, a column or a join that is not as it has to be.
-/

namespace TableGateway

open Outcome

/-! ### Scopes -/

namespace Query

/-- The names of the primary table and of the joined tables. -/
def tableNames (query : Query) : List String :=
  query.table :: query.joins.map Join.table

/-- A reference to a column of the table it is qualified by, which is one of the query's, or
to a column that just one of the query's tables has. -/
def InScope (query : Query) (catalog : Catalog) (reference : ColumnRef) : Prop :=
  match reference.qualifier with
  | some table => table ∈ query.tableNames ∧ catalog.hasColumn table reference.name = true
  | none => ∃! table, table ∈ query.tableNames ∧ catalog.hasColumn table reference.name = true

end Query

/-- A join of a new table of the catalog with a table in scope, on columns that these
tables have. -/
structure Join.InScope (join : Join) (catalog : Catalog) (scope : List String) : Prop where
  table : catalog.hasTable join.table = true
  new : join.table ∉ scope
  connected : ∃ other ∈ scope,
    (join.left.qualifier = some join.table ∧ join.right.qualifier = some other)
      ∨ (join.left.qualifier = some other ∧ join.right.qualifier = some join.table)
  left : ∀ table ∈ join.left.qualifier, catalog.hasColumn table join.left.name = true
  right : ∀ table ∈ join.right.qualifier, catalog.hasColumn table join.right.name = true

/-- A query about a table of the catalog all of whose names are in scope. The tables in scope
of a join are the primary table and those of the joins before it. -/
structure Query.WellScoped (query : Query) (catalog : Catalog) : Prop where
  table : catalog.hasTable query.table = true
  joins : ∀ before join after, query.joins = before ++ join :: after →
    join.InScope catalog (query.table :: before.map Join.table)
  columns : ∀ column ∈ query.columns, query.InScope catalog column
  conditions : ∀ condition ∈ query.conditions, query.InScope catalog condition.column

/-! ### References -/

namespace Query

theorem WellFormed.mem_tables_iff_mem_tableNames
    {query : Query} (h : query.WellFormed) {table : String} :
  table ∈ query.tables ↔ table ∈ query.tableNames
  := by
  rw [h.tables, List.mem_eraseDups, tableNames]

/-- A reference means a column exactly when it is in scope. -/
theorem exists_means_iff_inScope
    {query : Query} {catalog : Catalog} (hquery : query.WellFormed) {reference : ColumnRef} :
  (∃ column, query.Means catalog reference column) ↔ query.InScope catalog reference
  := by
  rw [InScope]
  cases hqualifier : reference.qualifier with
  | some table =>
      simp only [Means, hqualifier, exists_and_left, Statement.hasColumn_iff,
        hquery.mem_tables_iff_mem_tableNames]
  | none =>
      simp only [Means, hqualifier, ← hquery.mem_tables_iff_mem_tableNames,
        Statement.hasColumn_iff, Option.isSome_iff_exists]
      constructor
      · rintro ⟨column, table, htable, hcolumn, hothers⟩
        use table, ⟨htable, column, hcolumn⟩
        rintro other ⟨hother, hfound⟩
        apply hothers other hother hfound
      · rintro ⟨table, ⟨htable, column, hcolumn⟩, hothers⟩
        use column, table, htable, hcolumn
        intro other hother hfound
        apply hothers other ⟨hother, hfound⟩

/-- A reference is looked up successfully exactly when it is in scope. -/
theorem exists_resolve_eq_ok_iff
    {query : Query} {catalog : Catalog} (hquery : query.WellFormed)
    (htable : catalog.hasTable query.table = true) {reference : ColumnRef} :
  (∃ column, query.resolve catalog reference = .ok column) ↔ query.InScope catalog reference
  := by
  simp only [resolve_eq_ok_iff hquery (Catalog.hasTable_iff.mp htable),
    exists_means_iff_inScope hquery]

theorem checkColumns_eq_ok_iff
    {query : Query} {catalog : Catalog} {columns : List ColumnRef} :
  query.checkColumns catalog columns = .ok ()
    ↔ ∀ column ∈ columns, ∃ found, query.resolve catalog column = .ok found
  := by
  induction columns with
  | nil => simp [checkColumns]
  | cons column rest ih =>
      rw [checkColumns, bind_eq_ok_iff, List.forall_mem_cons]
      simp only [ih, exists_and_right]

/-! ### Joins -/

/-- A qualified reference is looked up successfully exactly when the table it is qualified by
is one of the query's and has the column. -/
theorem exists_resolve_eq_ok_iff_of_qualifier
    {query : Query} {catalog : Catalog} {reference : ColumnRef} {table : String}
    (h : reference.qualifier = some table) :
  (∃ column, query.resolve catalog reference = .ok column)
    ↔ table ∈ query.tables ∧ catalog.hasColumn table reference.name = true
  := by
  simp only [resolve, h, resolveQualified_eq_ok_iff, exists_and_left, Statement.hasColumn_iff]

/-- A join passes its check exactly when it is in scope. The tables in scope are all tables
of the query, so that the columns of the join are looked up among these. -/
theorem join_inScope_iff
    {query : Query} {catalog : Catalog} {scope : List String} {join : Join}
    (hjoin : join.IsPlain) (htable : join.table ∈ query.tables)
    (hscope : ∀ table ∈ scope, table ∈ query.tables) :
  join.InScope catalog scope
    ↔ catalog.hasTable join.table = true
      ∧ (join.table ∉ scope ∧ query.connects scope join = true)
      ∧ (∃ column, query.resolve catalog join.left = .ok column)
      ∧ ∃ column, query.resolve catalog join.right = .ok column
  := by
  obtain ⟨left, hleft⟩ := Option.isSome_iff_exists.mp hjoin.left.qualified
  obtain ⟨right, hright⟩ := Option.isSome_iff_exists.mp hjoin.right.qualified
  have hconnects : query.connects scope join = true
      ↔ (left = join.table ∧ right ∈ scope) ∨ (right = join.table ∧ left ∈ scope) := by
    simp [connects, ColumnRef.table, hleft, hright]
  rw [exists_resolve_eq_ok_iff_of_qualifier hleft, exists_resolve_eq_ok_iff_of_qualifier hright,
    hconnects]
  constructor
  · rintro ⟨hfound, hnew, ⟨other, hother, hsides⟩, hleftColumn, hrightColumn⟩
    simp only [hleft, hright, Option.some.injEq] at hsides
    use hfound
    rcases hsides with ⟨rfl, rfl⟩ | ⟨rfl, rfl⟩
    · use ⟨hnew, .inl ⟨rfl, hother⟩⟩, ⟨htable, hleftColumn _ hleft⟩
      use hscope _ hother, hrightColumn _ hright
    · use ⟨hnew, .inr ⟨rfl, hother⟩⟩, ⟨hscope _ hother, hleftColumn _ hleft⟩
      use htable, hrightColumn _ hright
  · rintro ⟨hfound, ⟨hnew, hsides⟩, ⟨-, hleftColumn⟩, -, hrightColumn⟩
    constructor
    · apply hfound
    · apply hnew
    · rcases hsides with ⟨rfl, hother⟩ | ⟨rfl, hother⟩
      · use right, hother, .inl ⟨hleft, hright⟩
      · use left, hother, .inr ⟨hleft, hright⟩
    · simpa [hleft] using hleftColumn
    · simpa [hright] using hrightColumn

/-- Joins pass their check exactly when each is in scope after those before it. -/
theorem checkJoins_eq_ok_iff
    {query : Query} {catalog : Catalog} {scope : List String} {joins : List Join}
    (hjoins : ∀ join ∈ joins, join.IsPlain ∧ join.table ∈ query.tables)
    (hscope : ∀ table ∈ scope, table ∈ query.tables) :
  query.checkJoins catalog scope joins = .ok ()
    ↔ ∀ before join after, joins = before ++ join :: after →
      join.InScope catalog (scope ++ before.map Join.table)
  := by
  induction joins generalizing scope with
  | nil => simp [checkJoins]
  | cons join rest ih =>
      rw [List.forall_mem_cons] at hjoins
      obtain ⟨⟨hplain, htable⟩, hrest⟩ := hjoins
      have hscope' : ∀ table ∈ scope ++ [join.table], table ∈ query.tables := by
        rw [List.forall_mem_append, List.forall_mem_singleton]
        use hscope, htable
      have hstep : query.checkJoins catalog scope (join :: rest) = .ok ()
          ↔ join.InScope catalog scope
            ∧ query.checkJoins catalog (scope ++ [join.table]) rest = .ok () := by
        rw [join_inScope_iff hplain htable hscope, Catalog.hasTable_iff]
        simp only [checkJoins, bind_eq_ok_iff, check_eq_ok_iff, Catalog.requireTable_eq_ok_iff,
          exists_and_right, Bool.or_eq_true, List.contains_iff_mem, Bool.not_eq_true', not_or,
          Bool.not_eq_false, and_assoc]
      rw [hstep, ih hrest hscope']
      constructor
      · rintro ⟨hjoin, hafter⟩ before other after hsplit
        rcases List.cons_eq_append_iff.mp hsplit with ⟨rfl, hcons⟩ | ⟨before, rfl, hrest⟩
        · cases hcons
          simpa using hjoin
        · simpa using hafter before other after hrest
      · intro h
        constructor
        · simpa using h [] join rest rfl
        · intro before other after hsplit
          subst hsplit
          simpa using h (join :: before) other after rfl

end Query

/-! ### Selections -/

/-- An error about a table, a column or a join of a query. -/
def RequestError.IsScope : RequestError → Prop
  | tableNotFound _ | invalidJoin _ | unjoinedTable _ | columnNotFound _ _
  | ambiguousColumn _ => True
  | _ => False

theorem RequestError.IsLookup.isScope {error : RequestError} (h : error.IsLookup) :
  error.IsScope
  := by
  cases error
  all_goals trivial

namespace Query

theorem isScope_of_checkJoins
    {query : Query} {catalog : Catalog} {scope : List String} {joins : List Join}
    {error : RequestError} (h : query.checkJoins catalog scope joins = .error error) :
  error.IsScope
  := by
  induction joins generalizing scope with
  | nil => cases h
  | cons join rest ih =>
      rw [checkJoins, bind_eq_error_iff] at h
      rcases h with htable | ⟨_, -, h⟩
      · apply (Catalog.isLookup_of_requireTable htable).isScope
      · split at h
        · cases h
          trivial
        · simp only [bind_eq_error_iff] at h
          rcases h with hleft | ⟨_, -, hright | ⟨_, -, hrest⟩⟩
          · apply (isLookup_of_resolve hleft).isScope
          · apply (isLookup_of_resolve hright).isScope
          · apply ih hrest

theorem isScope_of_checkColumns
    {query : Query} {catalog : Catalog} {columns : List ColumnRef} {error : RequestError}
    (h : query.checkColumns catalog columns = .error error) :
  error.IsScope
  := by
  induction columns with
  | nil => cases h
  | cons column rest ih =>
      rw [checkColumns, bind_eq_error_iff] at h
      rcases h with hcolumn | ⟨_, -, hrest⟩
      · apply (isLookup_of_resolve hcolumn).isScope
      · apply ih hrest

end Query

namespace Statement

/-- A selection is refused only for a table, a column or a join. -/
theorem isScope_of_select
    {catalog : Catalog} {query : Query} {error : RequestError}
    (h : select catalog query = .error error) :
  error.IsScope
  := by
  simp only [select_eq, bind_eq_error_iff] at h
  rcases h with htable | ⟨_, -, hjoins | ⟨_, -, hcolumns | ⟨_, -, hconditions | ⟨_, -, h⟩⟩⟩⟩
  · apply (Catalog.isLookup_of_requireTable htable).isScope
  · apply Query.isScope_of_checkJoins hjoins
  · apply Query.isScope_of_checkColumns hcolumns
  · apply (isLookup_of_filterArguments hconditions).isScope
  · cases h

/-- Rows are selected exactly when all names of the query are in scope. -/
theorem exists_select_eq_ok_iff
    {catalog : Catalog} {query : Query} (hquery : query.WellFormed) :
  (∃ statement, select catalog query = .ok statement) ↔ query.WellScoped catalog
  := by
  have hmem : ∀ join ∈ query.joins, join.IsPlain ∧ join.table ∈ query.tables := by
    intro join hjoin
    use hquery.joins join hjoin
    apply hquery.mem_tables.mpr
    right
    use join
  have hprimary : ∀ table ∈ [query.table], table ∈ query.tables := by
    rw [List.forall_mem_singleton]
    apply hquery.mem_tables.mpr
    left
    rfl
  simp only [select_eq_ok_iff, ← Catalog.hasTable_iff, Query.checkJoins_eq_ok_iff hmem hprimary,
    Query.checkColumns_eq_ok_iff]
  constructor
  · rintro ⟨_, htable, hjoins, hcolumns, compared, hcompared, -⟩
    constructor
    · apply htable
    · apply hjoins
    · intro column hcolumn
      apply (Query.exists_resolve_eq_ok_iff hquery htable).mp (hcolumns column hcolumn)
    · intro condition hcondition
      apply (Query.exists_resolve_eq_ok_iff hquery htable).mp
      apply exists_forall₂_iff.mp ⟨compared, hcompared⟩ condition hcondition
  · intro h
    have hcompared : ∃ compared, Compares catalog query query.conditions compared := by
      apply exists_forall₂_iff.mpr
      intro condition hcondition
      apply (Query.exists_resolve_eq_ok_iff hquery h.table).mpr (h.conditions condition hcondition)
    obtain ⟨compared, hcompared⟩ := hcompared
    refine ⟨_, h.table, h.joins, ?_, compared, hcompared, rfl⟩
    intro column hcolumn
    apply (Query.exists_resolve_eq_ok_iff hquery h.table).mpr (h.columns column hcolumn)

/-- A path with a condition on a table that is not joined. -/
def unjoinedPath : String :=
  "/books?where=authors.died<1800"

/-- The query of the path. -/
def unjoinedQuery : Query :=
  { Query.ofTable "books" with
    conditions := [⟨⟨some "authors", "died", none⟩, .below, ["1800"], rfl⟩] }

/-- Rows are selected exactly when all names of the query are in scope; otherwise the query is
refused for a table, a column or a join. -/
theorem selections_scoped
    {operators : OperatorTable} {path : String} {query : Query} (catalog : Catalog)
    (hquery : Query.parsePath operators path = .ok query) :
  ((∃ statement, select catalog query = .ok statement) ↔ query.WellScoped catalog)
    ∧ (¬ query.WellScoped catalog →
      ∃ error, select catalog query = .error error ∧ error.IsScope)
  := by
  have haccepted : (∃ statement, select catalog query = .ok statement)
      ↔ query.WellScoped catalog := exists_select_eq_ok_iff (Query.wellFormed_of_parsePath hquery)
  use haccepted
  intro hscope
  cases h : select catalog query with
  | ok statement => cases hscope (haccepted.mp ⟨statement, h⟩)
  | error error =>
      use error, rfl
      apply isScope_of_select h

theorem selections_scoped_library :
  Query.parsePath .standard joinedPath = .ok joinedQuery
    ∧ joinedQuery.WellScoped library
    ∧ Query.parsePath .standard unjoinedPath = .ok unjoinedQuery
    ∧ ∃ error, select library unjoinedQuery = .error error ∧ error.IsScope
  := by
  have hunjoined : Query.parsePath .standard unjoinedPath = .ok unjoinedQuery := by
    decide +kernel
  obtain ⟨haccepted, -⟩ := selections_scoped library parsePath_joinedPath
  obtain ⟨hunscoped, hrefused⟩ := selections_scoped library hunjoined
  use parsePath_joinedPath, haccepted.mp exists_select_joined, hunjoined
  apply hrefused
  intro hscope
  obtain ⟨statement, hstatement⟩ := hunscoped.mpr hscope
  cases hstatement

end Statement

end TableGateway
