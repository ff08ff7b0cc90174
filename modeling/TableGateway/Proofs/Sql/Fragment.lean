import TableGateway.Proofs.Sql.Numbering

/-!
# The fragments of a statement

The text of a statement is put together of fragments: pieces of a fixed wording, operators
and kinds of joins, numbers, placeholders, and names. A name is the only kind of fragment
that can be any text, so what a text says beside its fixed wording is said by its names.

Each part of a command has its fragments, and joining their texts gives the text of the
part. The names and the placeholders of a statement are those of its fragments, in order.
-/

namespace TableGateway.Sql

/-- The fixed pieces of the texts of statements. -/
def wording : List String := [
  "SELECT ", "*", " FROM ", " AS ", ", ", ".", " ON ", " = ", " WHERE ", " AND ", " OR ", " ",
  " (", "(", ",", ")", " LIMIT ", " OFFSET ", "INSERT INTO ", ") VALUES ", "UPDATE ", " SET ",
  "DELETE FROM ", " RETURNING "]

/-- A piece of the text of a statement. A name is that of a table or a column, or one that a
column is returned under. -/
inductive Fragment where
  | fixed (text : String) (known : text ∈ wording := by decide)
  | operator (operator : Operator)
  | joinKind (kind : JoinKind)
  | placeholder (number : Nat)
  | rows (number : Nat)
  | name (name : String)

namespace Fragment

/-- The text of a fragment. -/
def text : Fragment → String
  | .fixed text _ => text
  | .operator op => op.sql
  | .joinKind kind => kind.sql
  | .placeholder number => Sql.placeholder number
  | .rows number => Number.natText number
  | .name s => s

/-- The name that a fragment is. -/
def name? : Fragment → Option String
  | .name s => some s
  | _ => none

/-- The number of the placeholder that a fragment is. -/
def placeholder? : Fragment → Option Nat
  | .placeholder number => some number
  | _ => none

end Fragment

/-- The text that is put together of fragments. -/
def textOf (fragments : List Fragment) : String :=
  String.join (fragments.map Fragment.text)

/-- What is collected from fragments, in order. -/
def collect {α : Type} (f : Fragment → Option α) (fragments : List Fragment) : List α :=
  fragments.filterMap f

/-- The names among fragments. -/
abbrev namesOf : List Fragment → List String :=
  collect Fragment.name?

/-- The numbers of the placeholders among fragments. -/
abbrev placeholdersOf : List Fragment → List Nat :=
  collect Fragment.placeholder?

/-! ### Joining fragments -/

@[simp]
theorem textOf_nil :
  textOf [] = ""
  := by
  rw [textOf, List.map_nil, String.join_nil]

@[simp]
theorem textOf_cons (fragment : Fragment) (rest : List Fragment) :
  textOf (fragment :: rest) = fragment.text ++ textOf rest
  := String.join_cons

@[simp]
theorem textOf_append (first second : List Fragment) :
  textOf (first ++ second) = textOf first ++ textOf second
  := by
  rw [textOf, List.map_append, String.join_append, textOf, textOf]

/-- Fragments joined by a separator make the texts of the parts, joined by its text. -/
theorem textOf_intercalate (separator : Fragment) (parts : List (List Fragment)) :
  textOf ([separator].intercalate parts) = separator.text.intercalate (parts.map textOf)
  := by
  induction parts with
  | nil => rfl
  | cons first rest ih =>
      cases rest with
      | nil => simp
      | cons second rest =>
          rw [List.intercalate_cons_cons, textOf_append, textOf_append, ih]
          simp only [List.map_cons, String.intercalate_cons_cons, textOf_cons, textOf_nil,
            String.append_empty]

/-- The text of fragments for each element is the texts for the elements, one after the other. -/
theorem textOf_flatMap {α : Type} (fragments : α → List Fragment) (xs : List α) :
  textOf (xs.flatMap fragments) = String.join (xs.map fun x => textOf (fragments x))
  := by
  induction xs with
  | nil => rfl
  | cons x rest ih => rw [List.flatMap_cons, textOf_append, ih, List.map_cons, String.join_cons]

/-! ### Collecting from fragments -/

section Collect

variable {α : Type} (f : Fragment → Option α)

@[simp]
theorem collect_nil :
  collect f [] = []
  := by
  rw [collect, List.filterMap_nil]

@[simp]
theorem collect_cons (fragment : Fragment) (rest : List Fragment) :
  collect f (fragment :: rest) = (f fragment).toList ++ collect f rest
  := by
  rw [collect, List.filterMap_cons]
  cases f fragment <;> rfl

/-- What is collected from joined fragments is collected from each of them. -/
@[simp]
theorem collect_append (first second : List Fragment) :
  collect f (first ++ second) = collect f first ++ collect f second
  := List.filterMap_append

/-- What is collected from fragments for each element is collected for the elements in order. -/
@[simp]
theorem collect_flatMap {β : Type} (fragments : β → List Fragment) (xs : List β) :
  collect f (xs.flatMap fragments) = xs.flatMap fun x => collect f (fragments x)
  := List.filterMap_flatMap

/-- What is collected from joined parts is collected from each of them, if the separator
gives nothing. -/
theorem collect_intercalate
    {f : Fragment → Option α} {separator : Fragment} (h : f separator = none)
    {β : Type} (fragments : β → List Fragment) (xs : List β) :
  collect f ([separator].intercalate (xs.map fragments))
    = xs.flatMap fun x => collect f (fragments x)
  := by
  induction xs with
  | nil => rfl
  | cons first rest ih =>
      cases rest with
      | nil => simp
      | cons second rest =>
          rw [List.map_cons] at ih
          rw [List.map_cons, List.map_cons, List.intercalate_cons_cons, collect_append,
            collect_append, ih]
          simp [h]

end Collect

/-- A separator of fixed text adds no name. -/
@[simp]
theorem namesOf_intercalate
    {text : String} {known : text ∈ wording} {α : Type} (fragments : α → List Fragment)
    (xs : List α) :
  namesOf ([.fixed text known].intercalate (xs.map fragments))
    = xs.flatMap fun x => namesOf (fragments x)
  := collect_intercalate rfl fragments xs

/-- A separator of fixed text adds no placeholder. -/
@[simp]
theorem placeholdersOf_intercalate
    {text : String} {known : text ∈ wording} {α : Type} (fragments : α → List Fragment)
    (xs : List α) :
  placeholdersOf ([.fixed text known].intercalate (xs.map fragments))
    = xs.flatMap fun x => placeholdersOf (fragments x)
  := collect_intercalate rfl fragments xs

/-! ### The fragments of the parts of a command -/

/-- The fragments of a column, without the name that it is returned under. -/
def columnFragments (column : ColumnRef) : List Fragment :=
  match column.qualifier with
  | some qualifier => [.name qualifier, .fixed ".", .name column.name]
  | none => [.name column.name]

/-- The fragments of a list of arguments. -/
def argumentFragments (arguments : List Nat) : List Fragment :=
  [.fixed ","].intercalate (arguments.map fun argument => [.placeholder argument])

/-- The fragments of a comparison of a column with one argument. -/
def comparisonFragments (predicate : Predicate) (argument : Nat) : List Fragment :=
  columnFragments predicate.column
    ++ [.fixed " ", .operator predicate.operator, .fixed " ", .placeholder argument]

/-- The fragments of a predicate. -/
def predicateFragments (predicate : Predicate) : List Fragment :=
  let start := columnFragments predicate.column ++ [.fixed " ", .operator predicate.operator]
  if predicate.operator.isNullTest then start
  else if predicate.operator.isMembership then
    start ++ [.fixed " ("] ++ argumentFragments predicate.arguments ++ [.fixed ")"]
  else
    match predicate.arguments with
    | [argument] => comparisonFragments predicate argument
    | arguments => [.fixed "("]
        ++ [.fixed " OR "].intercalate (arguments.map (comparisonFragments predicate))
        ++ [.fixed ")"]

/-- The fragments of conditions after their keyword, if there are any. -/
def whereFragments (predicates : List Predicate) : List Fragment :=
  if predicates.isEmpty then []
  else .fixed " WHERE " :: [.fixed " AND "].intercalate (predicates.map predicateFragments)

/-- The fragments of a column to return. -/
def selectedFragments (column : ColumnRef) : List Fragment :=
  match column.label with
  | some label => columnFragments column ++ [.fixed " AS ", .name label]
  | none => columnFragments column

/-- The fragments of the columns to return. -/
def projectionFragments (columns : List ColumnRef) : List Fragment :=
  if columns.isEmpty then [.fixed "*"]
  else [.fixed ", "].intercalate (columns.map selectedFragments)

/-- The fragments of a join. -/
def joinFragments (join : Join) : List Fragment :=
  [.fixed " ", .joinKind join.kind, .fixed " ", .name join.table, .fixed " ON "]
    ++ columnFragments join.left ++ [.fixed " = "] ++ columnFragments join.right

/-- The fragments of a row bound, if there is one. -/
def boundFragments : RowBound → Option Nat → List Fragment
  | .limit, some rows => [.fixed " LIMIT ", .rows rows]
  | .offset, some rows => [.fixed " OFFSET ", .rows rows]
  | _, none => []

/-- The fragments of one row of arguments. -/
def tupleFragments (arguments : List Nat) : List Fragment :=
  [.fixed "("] ++ argumentFragments arguments ++ [.fixed ")"]

/-- The fragments of an assignment. -/
def assignmentFragments (assignment : String × Nat) : List Fragment :=
  [.name assignment.1, .fixed " = ", .placeholder assignment.2]

/-- The fragments of a command. -/
def Command.fragments : Command → List Fragment
  | select columns table joins predicates limit offset =>
    [.fixed "SELECT "] ++ projectionFragments columns ++ [.fixed " FROM ", .name table]
      ++ joins.flatMap joinFragments ++ whereFragments predicates
      ++ boundFragments .limit limit ++ boundFragments .offset offset
  | insert table columns tuples =>
    [.fixed "INSERT INTO ", .name table, .fixed " ("]
      ++ [.fixed ", "].intercalate (columns.map fun column => [.name column])
      ++ [.fixed ") VALUES "] ++ [.fixed ","].intercalate (tuples.map tupleFragments)
      ++ [.fixed " RETURNING ", .name "id"]
  | update table assignments predicates =>
    [.fixed "UPDATE ", .name table, .fixed " SET "]
      ++ [.fixed ", "].intercalate (assignments.map assignmentFragments)
      ++ whereFragments predicates ++ [.fixed " RETURNING ", .name "id"]
  | delete table predicates =>
    [.fixed "DELETE FROM ", .name table] ++ whereFragments predicates
      ++ [.fixed " RETURNING ", .name "id"]

/-! ### The texts of the fragments -/

/-- The fragments of a column make its text, with its qualifier if it has one. -/
theorem textOf_columnFragments (column : ColumnRef) :
  textOf (columnFragments column) = column.text
  := by
  rw [columnFragments, ColumnRef.text]
  cases column.qualifier with
  | none => simp [Fragment.text]
  | some qualifier => simp [Fragment.text, String.append_assoc]

theorem textOf_argumentFragments (arguments : List Nat) :
  textOf (argumentFragments arguments) = ",".intercalate (arguments.map placeholder)
  := by
  rw [argumentFragments, textOf_intercalate, List.map_map]
  simp [Fragment.text, Function.comp_def]

/-- The fragments of a comparison with one argument make its text. -/
theorem textOf_comparisonFragments (predicate : Predicate) (argument : Nat) :
  textOf (comparisonFragments predicate argument) = predicate.comparison argument
  := by
  rw [comparisonFragments, Predicate.comparison, textOf_append, textOf_columnFragments]
  simp [Fragment.text, String.append_assoc]

/-- The fragments of a predicate make its text, whichever form its operator has. -/
theorem textOf_predicateFragments (predicate : Predicate) :
  textOf (predicateFragments predicate) = predicate.text
  := by
  rw [predicateFragments, Predicate.text]
  split
  · simp [textOf_columnFragments, Fragment.text, String.append_assoc]
  · split
    · simp [textOf_columnFragments, textOf_argumentFragments, Fragment.text, String.append_assoc]
    · cases predicate.arguments with
      | nil => simp [Fragment.text]
      | cons first rest =>
          cases rest with
          | nil => apply textOf_comparisonFragments
          | cons second rest =>
              simp [textOf_intercalate, textOf_comparisonFragments, Fragment.text,
                Function.comp_def, String.append_assoc]

/-- The fragments of a filter make its text, and none make none. -/
theorem textOf_whereFragments (predicates : List Predicate) :
  textOf (whereFragments predicates) = whereText predicates
  := by
  rw [whereFragments, whereText]
  split
  · rfl
  · rw [textOf_cons, textOf_intercalate, List.map_map, conjunction]
    simp [textOf_predicateFragments, Fragment.text, Function.comp_def]

theorem textOf_selectedFragments (column : ColumnRef) :
  textOf (selectedFragments column) = selectedText column
  := by
  rw [selectedFragments, selectedText]
  cases column.label with
  | none => apply textOf_columnFragments
  | some label => simp [textOf_columnFragments, Fragment.text, String.append_assoc]

/-- The fragments of the selected columns make their text, and none make a star. -/
theorem textOf_projectionFragments (columns : List ColumnRef) :
  textOf (projectionFragments columns) = projectionText columns
  := by
  rw [projectionFragments, projectionText]
  split
  · rfl
  · rw [textOf_intercalate, List.map_map]
    simp [textOf_selectedFragments, Fragment.text, Function.comp_def]

/-- The fragments of a join make its text. -/
theorem textOf_joinFragments (join : Join) :
  textOf (joinFragments join) = joinText join
  := by
  simp [joinFragments, joinText, textOf_columnFragments, Fragment.text, String.append_assoc]

theorem textOf_limitFragments (limit : Option Nat) :
  textOf (boundFragments .limit limit) = boundText "LIMIT" limit
  := by
  cases limit with
  | none => rfl
  | some rows => simp [boundFragments, boundText, Fragment.text]

theorem textOf_offsetFragments (offset : Option Nat) :
  textOf (boundFragments .offset offset) = boundText "OFFSET" offset
  := by
  cases offset with
  | none => rfl
  | some rows => simp [boundFragments, boundText, Fragment.text]

/-- The fragments of a tuple make its text between parentheses. -/
theorem textOf_tupleFragments (arguments : List Nat) :
  textOf (tupleFragments arguments) = tupleText arguments
  := by
  simp [tupleFragments, tupleText, textOf_argumentFragments, Fragment.text, String.append_assoc]

/-- The fragments of an assignment make its text. -/
theorem textOf_assignmentFragments (assignment : String × Nat) :
  textOf (assignmentFragments assignment) = assignmentText assignment
  := by
  simp [assignmentFragments, assignmentText, Fragment.text, String.append_assoc]

/-- The text of a command is put together of its fragments. -/
theorem Command.textOf_fragments (command : Command) :
  textOf command.fragments = command.text
  := by
  cases command with
  | select columns table joins predicates limit offset =>
      simp [fragments, text_select, textOf_flatMap, textOf_projectionFragments,
        textOf_joinFragments, textOf_whereFragments, textOf_limitFragments,
        textOf_offsetFragments, Fragment.text, String.append_assoc]
  | insert table columns tuples =>
      simp [fragments, text_insert, textOf_intercalate, textOf_tupleFragments, Fragment.text,
        Function.comp_def, String.append_assoc]
  | update table assignments predicates =>
      simp [fragments, text_update, textOf_intercalate, textOf_assignmentFragments,
        textOf_whereFragments, Fragment.text, Function.comp_def, String.append_assoc]
  | delete table predicates =>
      simp [fragments, text_delete, textOf_whereFragments, Fragment.text, String.append_assoc]

/-! ### The placeholders of the fragments -/

@[simp]
theorem placeholdersOf_columnFragments (column : ColumnRef) :
  placeholdersOf (columnFragments column) = []
  := by
  rw [columnFragments]
  cases column.qualifier <;> rfl

/-- The placeholders of listed arguments are the arguments. -/
@[simp]
theorem placeholdersOf_argumentFragments (arguments : List Nat) :
  placeholdersOf (argumentFragments arguments) = arguments
  := by
  simp [argumentFragments, Fragment.placeholder?]

/-- A comparison has one placeholder. -/
@[simp]
theorem placeholdersOf_comparisonFragments (predicate : Predicate) (argument : Nat) :
  placeholdersOf (comparisonFragments predicate argument) = [argument]
  := by
  simp [comparisonFragments, Fragment.placeholder?]

/-- A predicate has its arguments as placeholders, unless it tests for null. -/
theorem placeholdersOf_predicateFragments
    {predicate : Predicate} (h : predicate.arguments.isEmpty = predicate.operator.isNullTest) :
  placeholdersOf (predicateFragments predicate) = predicate.arguments
  := by
  rw [predicateFragments]
  split
  · rename_i hnull
    rw [hnull, List.isEmpty_iff] at h
    simp [Fragment.placeholder?, h]
  · split
    · simp [Fragment.placeholder?]
    · split
      · rename_i argument hargument
        rw [placeholdersOf_comparisonFragments, hargument]
      · simp [Fragment.placeholder?]

/-- The placeholders of a filter are the arguments of its predicates, provided that just the tests
for null have none. -/
theorem placeholdersOf_whereFragments
    {predicates : List Predicate}
    (h : ∀ predicate ∈ predicates,
      predicate.arguments.isEmpty = predicate.operator.isNullTest) :
  placeholdersOf (whereFragments predicates) = predicates.flatMap Predicate.arguments
  := by
  rw [whereFragments]
  split
  · rename_i hempty
    rw [List.isEmpty_iff.mp hempty]
    rfl
  · simp only [collect_cons, Fragment.placeholder?, Option.toList_none, List.nil_append,
      placeholdersOf_intercalate]
    apply List.flatMap_congr
    intro predicate hpredicate
    apply placeholdersOf_predicateFragments (h predicate hpredicate)

@[simp]
theorem placeholdersOf_selectedFragments (column : ColumnRef) :
  placeholdersOf (selectedFragments column) = []
  := by
  rw [selectedFragments]
  cases column.label <;> simp [Fragment.placeholder?]

@[simp]
theorem placeholdersOf_projectionFragments (columns : List ColumnRef) :
  placeholdersOf (projectionFragments columns) = []
  := by
  rw [projectionFragments]
  split
  · rfl
  · simp

@[simp]
theorem placeholdersOf_joinFragments (join : Join) :
  placeholdersOf (joinFragments join) = []
  := by
  simp [joinFragments, Fragment.placeholder?]

@[simp]
theorem placeholdersOf_boundFragments (bound : RowBound) (rows : Option Nat) :
  placeholdersOf (boundFragments bound rows) = []
  := by
  cases bound <;> cases rows <;> rfl

/-- The placeholders of a tuple are its arguments. -/
@[simp]
theorem placeholdersOf_tupleFragments (arguments : List Nat) :
  placeholdersOf (tupleFragments arguments) = arguments
  := by
  simp [tupleFragments, Fragment.placeholder?]

@[simp]
theorem placeholdersOf_assignmentFragments (assignment : String × Nat) :
  placeholdersOf (assignmentFragments assignment) = [assignment.2]
  := by
  simp [assignmentFragments, Fragment.placeholder?]

/-- The predicates of a command. -/
def Command.predicates : Command → List Predicate
  | select _ _ _ predicates _ _ => predicates
  | insert .. => []
  | update _ _ predicates => predicates
  | delete _ predicates => predicates

/-- The placeholders in the text of a command are the numbers of its arguments, in order. -/
theorem Command.placeholdersOf_fragments
    {command : Command}
    (h : ∀ predicate ∈ command.predicates,
      predicate.arguments.isEmpty = predicate.operator.isNullTest) :
  placeholdersOf command.fragments = command.numbers
  := by
  have hwhere := placeholdersOf_whereFragments h
  cases command with
  | select columns table joins predicates limit offset =>
      rw [Command.predicates] at hwhere
      simp [fragments, numbers, hwhere, Fragment.placeholder?]
  | insert table columns tuples =>
      simp [fragments, numbers, Fragment.placeholder?]
  | update table assignments predicates =>
      rw [Command.predicates] at hwhere
      simp [fragments, numbers, hwhere, Fragment.placeholder?]
      symm
      apply List.map_eq_flatMap
  | delete table predicates =>
      rw [Command.predicates] at hwhere
      simp [fragments, numbers, hwhere, Fragment.placeholder?]

end TableGateway.Sql

namespace TableGateway.Statement

open Sql

/-! ### The placeholders of statements -/

/-- A predicate of a condition has arguments unless it tests for null. -/
theorem isEmpty_arguments_predicates (first : Nat) (conditions : List Condition) :
  ∀ predicate ∈ predicates first conditions,
    predicate.arguments.isEmpty = predicate.operator.isNullTest
  := by
  induction conditions generalizing first with
  | nil => simp [predicates]
  | cons condition rest ih =>
      rw [predicates, List.forall_mem_cons]
      constructor
      · rw [← condition.valid]
        cases condition.values <;> rfl
      · apply ih

/-- A statement with one placeholder for each argument, in order, whatever the names in its
text are. -/
def NumbersArguments (statement : Statement) : Prop :=
  placeholdersOf statement.command.fragments = List.range' 1 statement.arguments.length

/-- A statement numbers its arguments if those of its command count up from one to their number. -/
theorem numbersArguments_of_numbers
    {statement : Statement}
    (hpredicates : ∀ predicate ∈ statement.command.predicates,
      predicate.arguments.isEmpty = predicate.operator.isNullTest)
    {count : Nat} (hnumbers : statement.command.numbers = List.range' 1 count)
    (harguments : statement.arguments.length = count) :
  statement.NumbersArguments
  := by
  rw [NumbersArguments, Command.placeholdersOf_fragments hpredicates, hnumbers, harguments]

/-- The placeholders of a selection are as many as its arguments, and count up from one. -/
theorem numbersArguments_select
    {catalog : Catalog} {query : Query} {statement : Statement}
    (h : select catalog query = .ok statement) :
  statement.NumbersArguments
  := by
  obtain ⟨-, -, -, compared, hcompared, rfl⟩ := select_eq_ok_iff.mp h
  apply numbersArguments_of_numbers
  · apply isEmpty_arguments_predicates
  · apply flatMap_arguments_predicates
  · apply length_comparedArguments hcompared

/-- The placeholders of a deletion are as many as its arguments, and count up from one. -/
theorem numbersArguments_delete
    {catalog : Catalog} {query : Query} {statement : Statement}
    (h : delete catalog query = .ok statement) :
  statement.NumbersArguments
  := by
  obtain ⟨-, -, compared, hcompared, rfl⟩ := delete_eq_ok_iff.mp h
  apply numbersArguments_of_numbers
  · apply isEmpty_arguments_predicates
  · apply flatMap_arguments_predicates
  · apply length_comparedArguments hcompared

/-- Assigned arguments are counted before those of the conditions. -/
theorem numbersArguments_update
    {catalog : Catalog} {query : Query} {record : Record} {statement : Statement}
    (h : update catalog query record = .ok statement) :
  statement.NumbersArguments
  := by
  obtain ⟨-, table, -, -, assigned, hassigned, compared, hcompared, rfl⟩ :=
    update_eq_ok_iff.mp h
  apply numbersArguments_of_numbers
  · apply isEmpty_arguments_predicates
  · rw [Command.numbers, flatMap_arguments_predicates, ← Record.length_names,
      map_snd_zip_range', Nat.add_comm, List.range'_append_1]
  · rw [List.length_append, length_assignedArguments hassigned,
      length_comparedArguments hcompared, Record.length_names]

/-- The count goes on from one tuple to the next. -/
theorem numbersArguments_insert
    {catalog : Catalog} {name : String} {records : List Record} {statement : Statement}
    (h : insert catalog name records = .ok statement) :
  statement.NumbersArguments
  := by
  obtain ⟨table, -, first, rest, rfl, -, columns, hcolumns, rows, hrows, rfl⟩ :=
    insert_eq_ok_iff.mp h
  apply numbersArguments_of_numbers
  · simp [Command.predicates]
  · apply flatten_tuples
  · rw [length_flatten_rows hrows, hcolumns.length_eq, Record.length_names]

end TableGateway.Statement
