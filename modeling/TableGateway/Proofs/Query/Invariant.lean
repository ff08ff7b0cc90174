import Mathlib.Data.List.Induction
import TableGateway.Proofs.Query.WellFormed

/-!
# What holds of every parsed query

A query that is read from a path says the same in several places: its tables repeat what its
joins say, and its conditions repeat whether their operators take values. These places
agree, whatever the table of operators: all names are identifiers, the tables are listed
once each in the order in which they are first named, the columns of joins are qualified,
labels stand only on columns to return, and null tests alone have no values.
-/

namespace TableGateway

/-! ### Order of first appearance -/

/-- Among names of which the first of equal ones are kept, those come first that do so in all
the names. -/
theorem pairwise_idxOf_eraseDups (names : List String) :
  names.eraseDups.Pairwise fun first second => names.idxOf first < names.idxOf second
  := by
  -- Names are added at the end, since keeping the first ones goes from left to right.
  induction names using List.reverseRecOn with
  | nil => apply List.Pairwise.nil
  | append_singleton names name ih =>
      have hkept : names.eraseDups.Pairwise fun first second =>
          (names ++ [name]).idxOf first < (names ++ [name]).idxOf second := by
        apply ih.imp_of_mem
        intro first second hfirst hsecond hlt
        rw [List.idxOf_append_of_mem (List.mem_eraseDups.mp hfirst),
          List.idxOf_append_of_mem (List.mem_eraseDups.mp hsecond)]
        apply hlt
      rw [eraseDups_append_singleton]
      split
      · apply hkept
      · rename_i hnew
        rw [List.pairwise_append]
        use hkept, List.pairwise_singleton _ _
        intro first hfirst second hsecond
        rw [List.mem_singleton.mp hsecond,
          List.idxOf_append_of_mem (List.mem_eraseDups.mp hfirst),
          List.idxOf_append_of_notMem hnew]
        apply Nat.lt_of_lt_of_le (List.idxOf_lt_length_of_mem (List.mem_eraseDups.mp hfirst))
        apply Nat.le_add_right

/-! ### The names and the columns of a query -/

/-- The names in a reference. -/
def ColumnRef.names (column : ColumnRef) : List String :=
  column.qualifier.toList ++ column.name :: column.label.toList

theorem ColumnRef.IsPlain.isName_of_mem {column : ColumnRef} (h : column.IsPlain) :
  ∀ name ∈ column.names, IsName name
  := by
  intro name hname
  rw [names, List.mem_append, List.mem_cons, Option.mem_toList, Option.mem_toList] at hname
  rcases hname with hqualifier | rfl | hlabel
  · apply h.qualifier name hqualifier
  · apply h.name
  · apply h.label name hlabel

namespace Query

/-- The columns that rows are chosen by: those of the conditions and of the joins. -/
def deciding (query : Query) : List ColumnRef :=
  query.conditions.map Condition.column ++ query.joins.flatMap fun join => [join.left, join.right]

/-- All the names in a query. -/
def names (query : Query) : List String :=
  query.tables ++ query.joins.map Join.table
    ++ (query.columns ++ query.deciding).flatMap ColumnRef.names

/-- The tables as a query names them: the primary table, then a table for each join. -/
def namedTables (query : Query) : List String :=
  query.table :: query.joins.map Join.table

theorem WellFormed.of_mem_deciding {query : Query} (h : query.WellFormed) {column : ColumnRef}
    (hcolumn : column ∈ query.deciding) :
  column.IsPlain ∧ column.label = none
  := by
  rw [deciding, List.mem_append, List.mem_map, List.mem_flatMap] at hcolumn
  rcases hcolumn with ⟨condition, hcondition, rfl⟩ | ⟨join, hjoin, hside⟩
  · have hplain := h.conditions condition hcondition
    use hplain.column, hplain.label
  · have hplain := h.joins join hjoin
    rcases List.mem_pair.mp hside with rfl | rfl
    · use hplain.left.toIsPlain, hplain.left.unlabelled
    · use hplain.right.toIsPlain, hplain.right.unlabelled

theorem WellFormed.isName_of_mem {query : Query} (h : query.WellFormed) :
  ∀ name ∈ query.names, IsName name
  := by
  intro name hname
  rw [names, List.mem_append, List.mem_append, List.mem_map, List.mem_flatMap] at hname
  rcases hname with (htable | ⟨join, hjoin, rfl⟩) | ⟨column, hcolumn, hname⟩
  · rcases h.mem_tables.mp htable with rfl | ⟨join, hjoin, rfl⟩
    · apply h.table
    · apply (h.joins join hjoin).table
  · apply (h.joins join hjoin).table
  · rcases List.mem_append.mp hcolumn with hcolumn | hcolumn
    · apply (h.columns column hcolumn).isName_of_mem name hname
    · apply (h.of_mem_deciding hcolumn).1.isName_of_mem name hname

theorem WellFormed.head?_tables {query : Query} (h : query.WellFormed) :
  query.tables.head? = some query.table
  := by
  rw [h.tables, List.eraseDups_cons]
  rfl

end Query

/-- Just null tests have no values. -/
theorem Condition.values_eq_nil_iff (condition : Condition) :
  condition.values = [] ↔ condition.operator.isNullTest = true
  := by
  rw [← condition.valid, List.isEmpty_iff]

/-! ### Parsed queries -/

namespace Query

/-- In every query that is read from a path, whatever the table of operators, all names are
identifiers; the tables begin with the primary table and are, without repetition, just those
that the query names, in the order in which it first names them; both columns of each join
are qualified; columns that rows are chosen by have no labels; and just the null tests have
no values. -/
theorem parsePath_invariant
    {operators : OperatorTable} {path : String} {query : Query}
    (h : parsePath operators path = .ok query) :
  (∀ name ∈ query.names, IsName name)
    ∧ query.tables.head? = some query.table
    ∧ query.tables.Nodup
    ∧ (∀ table, table ∈ query.tables
      ↔ table = query.table ∨ ∃ join ∈ query.joins, join.table = table)
    ∧ query.tables.Pairwise (fun first second =>
      query.namedTables.idxOf first < query.namedTables.idxOf second)
    ∧ (∀ join ∈ query.joins,
      join.left.qualifier.isSome = true ∧ join.right.qualifier.isSome = true)
    ∧ (∀ column ∈ query.deciding, column.label = none)
    ∧ ∀ condition ∈ query.conditions,
      condition.values = [] ↔ condition.operator.isNullTest = true
  := by
  have hquery := wellFormed_of_parsePath h
  use hquery.isName_of_mem, hquery.head?_tables, hquery.nodup_tables
  refine ⟨fun table => hquery.mem_tables, ?_, ?_, ?_, ?_⟩
  · rw [hquery.tables]
    apply pairwise_idxOf_eraseDups
  · intro join hjoin
    use (hquery.joins join hjoin).left.qualified, (hquery.joins join hjoin).right.qualified
  · intro column hcolumn
    apply (hquery.of_mem_deciding hcolumn).2
  · intro condition _
    apply condition.values_eq_nil_iff

/-- A table of operators in which a token of several octets stands twice, and one token
begins with another one. -/
def mathematicalOperators : OperatorTable :=
  .ofList [("\u2248", .like), ("\u2248", .equal), ("\u2205", .isNull), ("\u2205!", .isNotNull)]

/-- A path with two joins of one table, and a filter that a later one replaces. -/
def mathematicalPath : String :=
  "/sets/?join=maps:sets.id==maps.on;sums:maps.id==sums.of&where=id\u22481"
    ++ "&left_join=maps:sums.to==maps.id&filter=sums.of\u2205;id\u2248a%2Cb,"

/-- What is read from the path has its tables in the order in which the joins first name
them, and the conditions of the later filter. -/
theorem parsePath_invariant_mathematical :
  ∃ query, parsePath mathematicalOperators mathematicalPath = .ok query
    ∧ query.tables = ["sets", "maps", "sums"]
    ∧ query.tables.Pairwise (fun first second =>
      query.namedTables.idxOf first < query.namedTables.idxOf second)
    ∧ query.conditions.map (fun condition => (condition.operator, condition.values))
      = [(.isNull, []), (.like, ["a,b", ""])]
    ∧ (∀ condition ∈ query.conditions,
      condition.values = [] ↔ condition.operator.isNullTest = true)
    ∧ ∀ name ∈ query.names, IsName name
  := by
  have h : (fun query => (query.tables,
        query.conditions.map fun condition => (condition.operator, condition.values)))
      <$> parsePath mathematicalOperators mathematicalPath
        = .ok (["sets", "maps", "sums"], [(.isNull, []), (.like, ["a,b", ""])]) := by
    decide +kernel
  obtain ⟨query, hquery, hparts⟩ := Outcome.map_eq_ok_iff.mp h
  obtain ⟨htables, hconditions⟩ := Prod.mk.inj hparts
  obtain ⟨hnames, -, -, -, horder, -, -, hvalues⟩ := parsePath_invariant hquery
  use query, hquery, htables, horder, hconditions, hvalues, hnames

end Query

end TableGateway
