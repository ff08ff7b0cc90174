import TableGateway.Proofs.Outcome
import TableGateway.Sql.Statement

/-!
# Collected arguments

The arguments of a statement are collected one by one, and each is named by its number. Whatever
has been collected before, a part of a statement is numbered from there on and puts its own
arguments behind those that are there.

So numbers and arguments can be told apart: the predicates of conditions, the assignments of a
record and the tuples of rows are numbered one after the other, and their arguments are the
values of the request in the same order.
-/

namespace TableGateway.Statement

open Outcome

/-! ### Numbers -/

/-- Conditions as predicates. Their values are numbered in order, starting with `first`. -/
def predicates (first : Nat) : List Condition → List Sql.Predicate
  | [] => []
  | condition :: rest =>
    let count := condition.values.length
    ⟨condition.column, condition.operator, List.range' first count⟩ ::
      predicates (first + count) rest

theorem predicates_ne_nil {first : Nat} {conditions : List Condition} (h : conditions ≠ []) :
  predicates first conditions ≠ []
  := by
  cases conditions with
  | nil => cases h rfl
  | cons condition rest => apply List.cons_ne_nil

/-- The numbers of the arguments of each of `rows` rows with `width` columns. -/
def tuples (rows width : Nat) : List (List Nat) :=
  (List.range rows).map fun row => List.range' (row * width + 1) width

/-! ### Arguments -/

/-- The arguments for the values of a condition on a column. -/
def conditionArguments (column : Column) (condition : Condition) : List Argument :=
  condition.values.map fun value => ⟨column.type.coerce value, column.type⟩

/-- The arguments for the values of conditions, in order. -/
def filterArguments (catalog : Catalog) (query : Query) :
    List Condition → Except RequestError (List Argument)
  | [] => .ok []
  | condition :: rest => do
    let column ← query.resolve catalog condition.column
    let arguments ← filterArguments catalog query rest
    return conditionArguments column condition ++ arguments

/-- The argument for the value that a record gives to a column. -/
def givenArgument? (record : Record) (column : Column) : Option Argument :=
  (record.get? column.name).map fun value => ⟨value, column.type⟩

/-- The arguments for the values that a record gives to columns, unless it gives others. -/
def recordArguments? (columns : List Column) (record : Record) : Option (List Argument) :=
  if record.size = columns.length then columns.mapM (givenArgument? record) else none

/-- The arguments for records that give values to the same columns, the first at a given place. -/
def rowArguments (columns : List Column) (row : Nat) :
    List Record → Except RequestError (List Argument)
  | [] => .ok []
  | record :: rest =>
    match recordArguments? columns record with
    | none => .error (.columnMismatch row)
    | some arguments => do
      let others ← rowArguments columns (row + 1) rest
      return arguments ++ others

/-! ### One argument after the other -/

theorem run_bind_of_ok
    {α β : Type} {part : Collecting α} {rest : α → Collecting β} {collected others : List Argument}
    {a : α} (h : part.run collected = .ok (a, others)) :
  (part >>= rest).run collected = (rest a).run others
  := by
  rw [StateT.run_bind, h]
  rfl

theorem run_bind_of_error
    {α β : Type} {part : Collecting α} {rest : α → Collecting β} {collected : List Argument}
    {e : RequestError} (h : part.run collected = .error e) :
  (part >>= rest).run collected = .error e
  := by
  rw [StateT.run_bind, h]
  rfl

/-- An argument is named by the number of arguments that have been collected with it. -/
theorem run_push (value : Json) (type : ColumnType) (collected : List Argument) :
  (push value type).run collected = .ok (collected.length + 1, collected ++ [Argument.mk value type])
  := by
  have hpush : (push value type).run collected
      = .ok ((collected ++ [Argument.mk value type]).length, collected ++ [Argument.mk value type]) := rfl
  rw [hpush, List.length_append, List.length_singleton]

/-- The values of a condition are numbered in order. -/
theorem run_collectCondition
    (condition : Condition) (column : Column) (collected : List Argument) :
  (collectCondition condition column).run collected
    = .ok (⟨condition.column, condition.operator,
        List.range' (collected.length + 1) condition.values.length⟩,
      collected ++ conditionArguments column condition)
  := by
  have hvalues : ∀ (values : List String) (collected : List Argument),
      (values.mapM fun value => push (column.type.coerce value) column.type).run collected
        = .ok (List.range' (collected.length + 1) values.length,
          collected ++ values.map fun value => ⟨column.type.coerce value, column.type⟩) := by
    intro values
    induction values with
    | nil =>
        intro collected
        rw [List.map_nil, List.append_nil]
        rfl
    | cons value rest ih =>
        intro collected
        rw [List.mapM_cons, run_bind_of_ok (run_push ..), run_bind_of_ok (ih _), List.length_append,
          List.length_singleton, List.append_assoc]
        rfl
  rw [collectCondition, run_bind_of_ok (hvalues ..)]
  rfl

/-- The predicates of conditions are numbered from the first argument that is new, unless a
column is not found. -/
theorem run_collectConditions
    (catalog : Catalog) (query : Query) (conditions : List Condition) (collected : List Argument) :
  (collectConditions catalog query conditions).run collected
    = (fun arguments => (predicates (collected.length + 1) conditions, collected ++ arguments))
      <$> filterArguments catalog query conditions
  := by
  induction conditions generalizing collected with
  | nil =>
      change _ = Except.ok (_, collected ++ [])
      rw [List.append_nil]
      rfl
  | cons condition rest ih =>
      rw [collectConditions, filterArguments]
      cases hcolumn : query.resolve catalog condition.column with
      | error e => rfl
      | ok column =>
          have hresolve : (liftM (Except.ok column : Except RequestError Column)
              : Collecting Column).run collected = .ok (column, collected) := rfl
          have hnext : (collected ++ conditionArguments column condition).length + 1
              = collected.length + 1 + condition.values.length := by
            rw [List.length_append, conditionArguments, List.length_map, Nat.add_right_comm]
          rw [run_bind_of_ok hresolve, run_bind_of_ok (run_collectCondition ..), StateT.run_bind,
            ih, hnext]
          cases filterArguments catalog query rest with
          | error e => rfl
          | ok arguments =>
              change Except.ok (_, collected ++ _ ++ _) = Except.ok (_, collected ++ (_ ++ _))
              rw [List.append_assoc]
              rfl

/-- The conditions of a change are numbered from the first argument that is new. That there are
some is checked once more, to no effect. -/
theorem run_collectFilter
    (catalog : Catalog) {query : Query} (h : query.conditions ≠ []) (collected : List Argument) :
  (collectFilter catalog query).run collected
    = (fun arguments => (predicates (collected.length + 1) query.conditions, collected ++ arguments))
      <$> filterArguments catalog query query.conditions
  := by
  have hconditions := run_collectConditions catalog query query.conditions collected
  cases harguments : filterArguments catalog query query.conditions with
  | error e =>
      rw [harguments] at hconditions
      rw [collectFilter, run_bind_of_error hconditions]
      rfl
  | ok arguments =>
      rw [harguments] at hconditions
      rw [collectFilter, run_bind_of_ok hconditions, if_neg]
      · rfl
      · rw [List.isEmpty_iff]
        apply predicates_ne_nil h

/-- The values of columns are numbered in order, if a record gives them all. -/
theorem run_collectValues
    (row : Nat) (record : Record) (columns : List Column) (collected : List Argument) :
  (columns.mapM (collectValue row record)).run collected
    = match columns.mapM (givenArgument? record) with
      | some arguments =>
        .ok (List.range' (collected.length + 1) columns.length, collected ++ arguments)
      | none => .error (.columnMismatch row)
  := by
  induction columns generalizing collected with
  | nil =>
      change _ = Except.ok (_, collected ++ [])
      rw [List.append_nil]
      rfl
  | cons column rest ih =>
      rw [List.mapM_cons, List.mapM_cons, collectValue, givenArgument?]
      cases record.get? column.name with
      | none => rfl
      | some value =>
          rw [run_bind_of_ok (run_push ..), StateT.run_bind, ih, Option.map_some]
          cases rest.mapM (givenArgument? record) with
          | none => rfl
          | some arguments =>
              change Except.ok (_ :: _, collected ++ _ ++ _) = Except.ok (_, collected ++ _)
              rw [List.append_assoc, List.length_append, List.length_singleton]
              rfl

/-- A row is numbered from the first argument that is new, if it gives a value to each column
and to no others. -/
theorem run_collectRow
    (columns : List Column) (row : Nat) (record : Record) (collected : List Argument) :
  (collectRow columns row record).run collected
    = match recordArguments? columns record with
      | some arguments =>
        .ok (List.range' (collected.length + 1) columns.length, collected ++ arguments)
      | none => .error (.columnMismatch row)
  := by
  rw [collectRow, recordArguments?]
  by_cases hsize : record.size = columns.length
  · rw [if_pos hsize, if_neg (not_not.mpr hsize), ← run_collectValues]
  · rw [if_neg hsize, if_pos hsize]
    rfl

theorem length_of_recordArguments?
    {columns : List Column} {record : Record} {arguments : List Argument}
    (h : recordArguments? columns record = some arguments) :
  arguments.length = columns.length
  := by
  rw [recordArguments?] at h
  split at h
  · apply (List.Forall₂.length_eq (mapM_eq_some_iff.mp h)).symm
  · cases h

/-- The numbers of rows that come after `row` others. -/
def tuplesFrom (row rows width : Nat) : List (List Nat) :=
  (List.range' row rows).map fun row => List.range' (row * width + 1) width

theorem tuplesFrom_zero (rows width : Nat) :
  tuplesFrom 0 rows width = tuples rows width
  := by
  rw [tuplesFrom, tuples, List.range_eq_range']

/-- Rows are numbered one after the other, if each gives values to the same columns: what the
rows before them have collected is known from their number. -/
theorem run_collectRows
    (columns : List Column) (row : Nat) (records : List Record) {collected : List Argument}
    (hcollected : collected.length = row * columns.length) :
  (collectRows columns row records).run collected
    = (fun arguments =>
        (tuplesFrom row records.length columns.length, collected ++ arguments))
      <$> rowArguments columns row records
  := by
  induction records generalizing row collected with
  | nil =>
      change _ = Except.ok (_, collected ++ [])
      rw [List.append_nil]
      rfl
  | cons record rest ih =>
      rw [collectRows, rowArguments]
      have hfirst := run_collectRow columns row record collected
      cases hrow : recordArguments? columns record with
      | none =>
          rw [hrow] at hfirst
          rw [run_bind_of_error hfirst]
          rfl
      | some arguments =>
          rw [hrow] at hfirst
          have hlength : (collected ++ arguments).length = (row + 1) * columns.length := by
            rw [List.length_append, hcollected, length_of_recordArguments? hrow, Nat.succ_mul]
          rw [run_bind_of_ok hfirst, StateT.run_bind, ih (row + 1) hlength]
          cases rowArguments columns (row + 1) rest with
          | error e => rfl
          | ok others =>
              change Except.ok (_ :: _, collected ++ arguments ++ others)
                = Except.ok (_, collected ++ (arguments ++ others))
              rw [List.append_assoc, hcollected]
              rfl

/-- The columns of a record are assigned its values, which are numbered in order. -/
theorem run_collectAssignments
    {record : Record} {columns : List Column} {arguments : List Argument}
    (h : List.Forall₂ (fun column argument => givenArgument? record column = some argument)
      columns arguments)
    (collected : List Argument) :
  (collectAssignments record columns).run collected
    = .ok ((columns.map Column.name).zip (List.range' (collected.length + 1) columns.length),
      collected ++ arguments)
  := by
  induction h generalizing collected with
  | nil =>
      rw [List.append_nil]
      rfl
  | cons hargument _ ih =>
      obtain ⟨value, hvalue, rfl⟩ := Option.map_eq_some_iff.mp hargument
      simp only [collectAssignments, hvalue]
      rw [run_bind_of_ok (run_push ..), run_bind_of_ok (ih _), List.append_assoc,
        List.length_append, List.length_singleton]
      rfl

end TableGateway.Statement
