import TableGateway.Proofs.Query.WellFormed

/-!
# Queries from clauses

A query is made of clauses one after the other. Of the clauses of a kind the last one counts,
but joins add up. So a query is made of all clauses that say what it says, in whatever order
they come.
-/

namespace TableGateway.Query

/-! ### What a clause is about -/

namespace Clause

/-- The conditions of a clause about these. -/
@[simp]
def conditions? : Clause → Option (List Condition)
  | filter conditions => some conditions
  | _ => none

/-- The columns of a clause about these. -/
@[simp]
def columns? : Clause → Option (List ColumnRef)
  | select columns => some columns
  | _ => none

/-- The joins of a clause about these. -/
@[simp]
def joins? : Clause → Option (List Join)
  | join joins => some joins
  | _ => none

/-- The number of rows of a limit. -/
@[simp]
def limit? : Clause → Option Nat
  | limit rows => some rows
  | _ => none

/-- The number of rows of an offset. -/
@[simp]
def offset? : Clause → Option Nat
  | offset rows => some rows
  | _ => none

end Clause

/-- Clauses that say what a query says: one of each kind that it needs, in any order, but one
for each join, in the order of the joins. -/
structure HasClauses (query : Query) (clauses : List Clause) : Prop where
  conditions : clauses.filterMap Clause.conditions?
    = if query.conditions = [] then [] else [query.conditions]
  columns : clauses.filterMap Clause.columns?
    = if query.columns = [] then [] else [query.columns]
  joins : clauses.filterMap Clause.joins? = query.joins.map fun join => [join]
  limit : clauses.filterMap Clause.limit? = query.limit.toList
  offset : clauses.filterMap Clause.offset? = query.offset.toList

/-- The clauses that say what a query says, one after the other. -/
def clauses (query : Query) : List Clause :=
  (if query.conditions = [] then [] else [.filter query.conditions])
    ++ (if query.columns = [] then [] else [.select query.columns])
    ++ query.joins.map (fun join => .join [join])
    ++ query.limit.toList.map .limit ++ query.offset.toList.map .offset

theorem hasClauses_clauses (query : Query) :
  query.HasClauses query.clauses
  := by
  constructor <;> simp only [clauses, List.filterMap_append, List.filterMap_map, Function.comp_def]
  all_goals split <;> split <;> simp [List.filterMap_cons]

/-- A clause that says a part of what a query says. -/
def Says (query : Query) : Clause → Prop
  | .filter conditions => conditions = query.conditions
  | .select columns => columns = query.columns
  | .join joins => ∃ join ∈ query.joins, joins = [join]
  | .limit rows => query.limit = some rows
  | .offset rows => query.offset = some rows

theorem HasClauses.says_of_mem
    {query : Query} {clauses : List Clause} (h : query.HasClauses clauses) :
  ∀ clause ∈ clauses, query.Says clause
  := by
  intro clause hclause
  cases clause with
  | filter conditions =>
      have hmem : conditions ∈ clauses.filterMap Clause.conditions? :=
        List.mem_filterMap.mpr ⟨_, hclause, rfl⟩
      rw [h.conditions] at hmem
      split at hmem
      · cases hmem
      · apply List.mem_singleton.mp hmem
  | select columns =>
      have hmem : columns ∈ clauses.filterMap Clause.columns? :=
        List.mem_filterMap.mpr ⟨_, hclause, rfl⟩
      rw [h.columns] at hmem
      split at hmem
      · cases hmem
      · apply List.mem_singleton.mp hmem
  | join joins =>
      have hmem : joins ∈ clauses.filterMap Clause.joins? :=
        List.mem_filterMap.mpr ⟨_, hclause, rfl⟩
      rw [h.joins, List.mem_map] at hmem
      obtain ⟨join, hjoin, rfl⟩ := hmem
      use join, hjoin
  | limit rows =>
      have hmem : rows ∈ clauses.filterMap Clause.limit? :=
        List.mem_filterMap.mpr ⟨_, hclause, rfl⟩
      rw [h.limit] at hmem
      apply Option.mem_toList.mp hmem
  | offset rows =>
      have hmem : rows ∈ clauses.filterMap Clause.offset? :=
        List.mem_filterMap.mpr ⟨_, hclause, rfl⟩
      rw [h.offset] at hmem
      apply Option.mem_toList.mp hmem

theorem Says.isPlain {query : Query} {clause : Clause}
    (h : query.Says clause) (hquery : query.WellFormed) :
  clause.IsPlain
  := by
  cases clause with
  | filter conditions =>
      obtain rfl := h
      apply hquery.conditions
  | select columns =>
      obtain rfl := h
      apply hquery.columns
  | join joins =>
      obtain ⟨join, hjoin, rfl⟩ := h
      rw [Clause.IsPlain, List.forall_mem_singleton]
      apply hquery.joins join hjoin
  | limit rows => trivial
  | offset rows => trivial

/-! ### Clauses one after the other -/

/-- Clauses that are read and applied one after the other may be read first, up to one that
cannot be read, and then applied. -/
theorem foldlM_apply_eq (operators : OperatorTable) (texts : List (List Char)) (query : Query) :
  texts.foldlM (fun query text => query.apply <$> parseClause operators text) query
    = (fun clauses => clauses.foldl apply query) <$> texts.mapM (parseClause operators)
  := by
  induction texts generalizing query with
  | nil => rfl
  | cons text texts ih =>
      rw [List.foldlM_cons, List.mapM_cons]
      cases parseClause operators text with
      | error e => rfl
      | ok clause =>
          apply Eq.trans (ih (query.apply clause))
          cases texts.mapM (parseClause operators) <;> rfl

/-- Joins are added one after the other, and nothing else changes but the tables. -/
theorem foldl_addJoin (query : Query) (joins : List Join) :
  joins.foldl addJoin query
    = { query with tables := (joins.foldl addJoin query).tables, joins := query.joins ++ joins }
  := by
  induction joins generalizing query with
  | nil => rw [List.foldl_nil, List.append_nil]
  | cons join rest ih =>
      rw [List.foldl_cons, ih, addJoin, List.append_assoc]
      rfl

/-- A clause replaces the part of a query that it is about, but joins are added. -/
theorem apply_eq (query : Query) (clause : Clause) :
  query.apply clause
    = { query with
        tables := (query.apply clause).tables
        columns := clause.columns?.getD query.columns
        conditions := clause.conditions?.getD query.conditions
        joins := query.joins ++ clause.joins?.getD []
        limit := (clause.limit?.map some).getD query.limit
        offset := (clause.offset?.map some).getD query.offset }
  := by
  cases clause with
  | join joins => apply foldl_addJoin
  | filter conditions => simp [apply]
  | select columns => simp [apply]
  | limit rows => simp [apply]
  | offset rows => simp [apply]

/-- Where each clause replaces a part of a query or keeps it, the last clause that replaces it
counts. -/
theorem foldl_apply
    {α : Type} {part : Query → α} {part? : Clause → Option α}
    (h : ∀ query clause, part (query.apply clause) = (part? clause).getD (part query))
    (query : Query) (clauses : List Clause) :
  part (clauses.foldl apply query) = (clauses.filterMap part?).getLast?.getD (part query)
  := by
  induction clauses generalizing query with
  | nil => rfl
  | cons clause rest ih =>
      rw [List.foldl_cons, ih, h]
      cases hclause : part? clause with
      | none => rw [List.filterMap_cons_none hclause, Option.getD_none]
      | some value =>
          rw [List.filterMap_cons_some hclause, List.getLast?_cons, Option.getD_some,
            Option.getD_some]

/-- The joins of clauses add up. -/
theorem joins_foldl_apply (query : Query) (clauses : List Clause) :
  (clauses.foldl apply query).joins
    = query.joins ++ (clauses.filterMap Clause.joins?).flatten
  := by
  induction clauses generalizing query with
  | nil => rw [List.filterMap_nil, List.flatten_nil, List.append_nil, List.foldl_nil]
  | cons clause rest ih =>
      rw [List.foldl_cons, ih, apply_eq]
      cases hjoins : clause.joins? with
      | none => rw [List.filterMap_cons_none hjoins, Option.getD_none, List.append_nil]
      | some joins =>
          rw [List.filterMap_cons_some hjoins, List.flatten_cons, Option.getD_some,
            List.append_assoc]

theorem table_foldl_apply (query : Query) (clauses : List Clause) :
  (clauses.foldl apply query).table = query.table
  := by
  induction clauses generalizing query with
  | nil => rfl
  | cons clause rest ih => rw [List.foldl_cons, ih, apply_eq]

theorem WellFormed.foldl_apply {query : Query} {clauses : List Clause}
    (h : query.WellFormed) (hclauses : ∀ clause ∈ clauses, clause.IsPlain) :
  (clauses.foldl Query.apply query).WellFormed
  := by
  induction clauses generalizing query with
  | nil => apply h
  | cons clause rest ih =>
      rw [List.forall_mem_cons] at hclauses
      rw [List.foldl_cons]
      apply ih (h.apply hclauses.1) hclauses.2

/-- The tables of a well-formed query follow from the rest of it. -/
theorem WellFormed.ext
    {query query' : Query} (h : query.WellFormed) (h' : query'.WellFormed)
    (htable : query.table = query'.table) (hcolumns : query.columns = query'.columns)
    (hconditions : query.conditions = query'.conditions) (hjoins : query.joins = query'.joins)
    (hlimit : query.limit = query'.limit) (hoffset : query.offset = query'.offset) :
  query = query'
  := by
  have htables : query.tables = query'.tables := by
    rw [h.tables, h'.tables, htable, hjoins]
  cases query
  cases query'
  simp only [mk.injEq]
  use htable, htables, hcolumns, hconditions, hjoins, hlimit, hoffset

/-- A query is made of the clauses that say what it says. -/
theorem HasClauses.foldl_apply_ofTable
    {query : Query} {clauses : List Clause} (h : query.HasClauses clauses)
    (hquery : query.WellFormed) :
  clauses.foldl apply (ofTable query.table) = query
  := by
  have hmade : (clauses.foldl apply (ofTable query.table)).WellFormed := by
    apply (wellFormed_ofTable hquery.table).foldl_apply
    intro clause hclause
    apply (h.says_of_mem clause hclause).isPlain hquery
  apply hmade.ext hquery
  · apply table_foldl_apply
  · rw [foldl_apply (fun query clause => congrArg Query.columns (apply_eq query clause)),
      h.columns]
    split
    · rename_i hnil
      rw [hnil]
      rfl
    · rfl
  · rw [foldl_apply (fun query clause => congrArg Query.conditions (apply_eq query clause)),
      h.conditions]
    split
    · rename_i hnil
      rw [hnil]
      rfl
    · rfl
  · rw [joins_foldl_apply, h.joins, ← List.flatMap_def, List.flatMap_singleton']
    rfl
  · rw [foldl_apply (fun query clause => congrArg Query.limit (apply_eq query clause)),
      ← List.map_filterMap, h.limit]
    cases query.limit <;> rfl
  · rw [foldl_apply (fun query clause => congrArg Query.offset (apply_eq query clause)),
      ← List.map_filterMap, h.offset]
    cases query.offset <;> rfl

end TableGateway.Query
