import TableGateway.Proofs.Sql.Alignment
import TableGateway.Proofs.Sql.Formula

/-!
# What conditions mean

The condition of a statement is read as one formula, and on every row its value is that of
the query's conditions, all of which must hold. Each condition tests its column with its own
values: an operator with several values holds if it holds for one of them, and stays
together between parentheses; a placeholder of a condition is the place of its own value,
since numbers go on where those of the conditions before it end.
-/

namespace TableGateway

open Outcome Sql

/-! ### The meaning of conditions -/

/-- The value of an operator between a value and arguments. -/
def Sql.Interpretation.test
    {V : Type} (interpretation : Interpretation V) (operator : Operator) (value : V)
    (arguments : List Json) : Truth :=
  if operator.isNullTest then interpretation.nullTest operator value
  else if operator.isMembership then interpretation.membership operator value arguments
  else .any (arguments.map (interpretation.compare operator value))

/-- The arguments of a condition on a column. -/
def Condition.arguments (condition : Condition) (column : Column) : List Json :=
  condition.values.map column.type.coerce

/-- The value of a condition on a row, with the column that the condition is about. -/
def Condition.truth
    {V : Type} (interpretation : Interpretation V) (row : String → V) (condition : Condition)
    (column : Column) : Truth :=
  interpretation.test condition.operator (row condition.column.text)
    (condition.arguments column)

/-- The value of conditions that hold together. -/
def conditionsTruth
    {V : Type} (interpretation : Interpretation V) (row : String → V)
    (conditions : List Condition) (columns : List Column) : Truth :=
  .all (List.zipWith (Condition.truth interpretation row) conditions columns)

/-! ### Formulas that are joined -/

namespace Sql

theorem intercalate_cons_eq_append_flatMap (mark : Item) (first : List Item)
    (rest : List (List Item)) :
  [mark].intercalate (first :: rest) = first ++ rest.flatMap fun items => mark :: items
  := by
  induction rest generalizing first with
  | nil => simp
  | cons second rest ih =>
      rw [List.intercalate_cons_cons, ih, List.flatMap_cons, List.append_assoc,
        List.singleton_append, List.cons_append]

namespace Formula

/-- Formulas that are joined by a connective are read from left to right. -/
theorem reads_intercalate
    {inner outer : Level} {mark : Item} {node : Formula → Formula → Formula}
    (hsingle : ∀ {items formula}, Reads inner items formula → Reads outer items formula)
    (hjoin : ∀ {items others left right}, Reads outer items left → Reads inner others right →
      Reads outer (items ++ mark :: others) (node left right))
    {lists : List (List Item)} {first : Formula} {rest : List Formula}
    (h : List.Forall₂ (Reads inner) lists (first :: rest)) :
  Reads outer ([mark].intercalate lists) (rest.foldl node first)
  := by
  obtain ⟨items, lists, hfirst, hrest, rfl⟩ := List.forall₂_cons_right_iff.mp h
  rw [intercalate_cons_eq_append_flatMap]
  have hread := hsingle hfirst
  clear h hfirst
  induction hrest generalizing items first with
  | nil => simpa using hread
  | @cons others formula lists rest hothers _ ih =>
      rw [List.flatMap_cons, ← List.append_assoc]
      apply ih _ (hjoin hread hothers)

/-- The value of formulas that are joined by a connective. -/
theorem eval_foldl
    {V : Type} {interpretation : Interpretation V} {row : String → V} {arguments : List Json}
    {node : Formula → Formula → Formula} {op : Truth → Truth → Truth}
    (hnode : ∀ {left right value other}, left.eval interpretation row arguments = some value →
      right.eval interpretation row arguments = some other →
      (node left right).eval interpretation row arguments = some (op value other))
    {first : Formula} {value : Truth}
    (hfirst : first.eval interpretation row arguments = some value)
    {rest : List Formula} {values : List Truth}
    (h : List.Forall₂ (fun formula value =>
      formula.eval interpretation row arguments = some value) rest values) :
  (rest.foldl node first).eval interpretation row arguments = some (values.foldl op value)
  := by
  induction h generalizing first value with
  | nil => apply hfirst
  | cons hformula _ ih =>
      rw [List.foldl_cons, List.foldl_cons]
      apply ih (hnode hfirst hformula)

end Formula

/-! ### The formula of a predicate -/

/-- Comparisons of a column with arguments, of which one must hold. -/
def comparisons (column : String) (operator : Operator) (first : Nat) (rest : List Nat) :
    Formula :=
  (rest.map (Formula.comparison column operator)).foldl .disjunction
    (.comparison column operator first)

/-- Comparisons are read as a test or a group. -/
theorem reads_comparisons {predicate : Predicate}
    (hnull : predicate.operator.isNullTest = false)
    (hmembership : predicate.operator.isMembership = false)
    {first : Nat} {rest : List Nat} (harguments : predicate.arguments = first :: rest) :
  Formula.Reads .test predicate.items
    (comparisons predicate.column.text predicate.operator first rest)
  := by
  rw [Predicate.items, hnull, hmembership, harguments]
  cases rest with
  | nil => apply Formula.Reads.test rfl
  | cons second rest =>
      apply Formula.Reads.group
      apply Formula.reads_intercalate .ofConjunction .disjunction
      rw [← List.map_cons, List.forall₂_map_left_iff, List.forall₂_map_right_iff,
        List.forall₂_same]
      intro argument _
      apply Formula.Reads.ofTest (.test rfl)

theorem eval_comparisons
    {V : Type} (interpretation : Interpretation V) (row : String → V) {arguments own : List Json}
    (column : String) (operator : Operator) {first : Nat} {rest : List Nat}
    (h : (first :: rest).mapM (argument? arguments) = some own) :
  (comparisons column operator first rest).eval interpretation row arguments
    = some (.any (own.map (interpretation.compare operator (row column))))
  := by
  obtain ⟨value, values, hfirst, hrest, rfl⟩ :=
    List.forall₂_cons_left_iff.mp (mapM_eq_some_iff.mp h)
  have heval : ∀ {number value}, argument? arguments number = some value →
      (Formula.comparison column operator number).eval interpretation row arguments
        = some (interpretation.compare operator (row column) value) := by
    intro number value hvalue
    rw [Formula.eval, hvalue, Option.map_some]
  rw [comparisons, List.map_cons, Truth.any_cons]
  apply Formula.eval_foldl _ (heval hfirst)
  · rw [List.forall₂_map_left_iff, List.forall₂_map_right_iff]
    apply hrest.imp
    intro number value hvalue
    apply heval hvalue
  · intro left right value other hleft hright
    rw [Formula.eval, hleft, hright]
    rfl

/-- A predicate is read as a test or a group, whose value is that of its operator between its
column and its arguments. -/
theorem exists_reads_items {predicate : Predicate} (h : predicate.IsPlain) :
  ∃ formula, Formula.Reads .test predicate.items formula
    ∧ ∀ {V : Type} (interpretation : Interpretation V) (row : String → V)
      (arguments own : List Json),
      predicate.arguments.mapM (argument? arguments) = some own →
      formula.eval interpretation row arguments
        = some (interpretation.test predicate.operator (row predicate.column.text) own)
  := by
  have hempty := h.arguments
  cases hnull : predicate.operator.isNullTest with
  | true =>
      use .nullTest predicate.column.text predicate.operator
      constructor
      · rw [Predicate.items, if_pos hnull]
        apply Formula.Reads.test rfl
      · intro V interpretation row arguments own _
        rw [Interpretation.test, if_pos hnull]
        rfl
  | false =>
      cases hmembership : predicate.operator.isMembership with
      | true =>
          use .membership predicate.column.text predicate.operator predicate.arguments
          constructor
          · rw [Predicate.items, hnull, if_neg Bool.false_ne_true, if_pos hmembership]
            apply Formula.Reads.test rfl
          · intro V interpretation row arguments own hown
            rw [Interpretation.test, hnull, if_neg Bool.false_ne_true, if_pos hmembership,
              Formula.eval, hown]
            rfl
      | false =>
          rw [hnull, List.isEmpty_eq_false_iff] at hempty
          obtain ⟨first, rest, harguments⟩ := List.exists_cons_of_ne_nil hempty
          use comparisons predicate.column.text predicate.operator first rest,
            reads_comparisons hnull hmembership harguments
          intro V interpretation row arguments own hown
          rw [harguments] at hown
          rw [Interpretation.test, hnull, hmembership, eval_comparisons _ _ _ _ hown]
          rfl

end Sql

namespace Statement

/-! ### The formula of conditions -/

/-- The arguments that begin after given ones have the numbers after theirs. -/
theorem mapM_argument? (before own after : List Json) :
  (List.range' (before.length + 1) own.length).mapM (argument? (before ++ own ++ after))
    = some own
  := by
  rw [mapM_eq_some_iff]
  induction own generalizing before with
  | nil => apply List.Forall₂.nil
  | cons value own ih =>
      rw [List.length_cons, List.range'_succ]
      apply List.Forall₂.cons
      · simp [argument?]
      · have hrest := ih (before ++ [value])
        rw [List.length_append, List.length_singleton, List.append_assoc before,
          List.singleton_append] at hrest
        apply hrest

/-- The predicates of conditions are read as formulas whose values are those of the conditions,
if the arguments of the conditions are numbered from the first one on. -/
theorem exists_reads_predicates
    (first : Nat) {conditions : List Condition} {columns : List Column}
    (h : ∀ condition ∈ conditions, condition.IsPlain)
    (hlength : conditions.length = columns.length) :
  ∃ formulas, List.Forall₂ (Formula.Reads .test)
      ((predicates first conditions).map Predicate.items) formulas
    ∧ ∀ {V : Type} (interpretation : Interpretation V) (row : String → V) (before : List Json),
      before.length + 1 = first →
      List.Forall₂ (fun formula value => formula.eval interpretation row
          (before ++ comparedValues conditions columns) = some value)
        formulas (List.zipWith (Condition.truth interpretation row) conditions columns)
  := by
  induction conditions generalizing first columns with
  | nil =>
      use [], .nil
      intro _ _ _ _ _
      apply List.Forall₂.nil
  | cons condition conditions ih =>
      cases columns with
      | nil => cases hlength
      | cons column columns =>
          rw [List.forall_mem_cons] at h
          have hplain : ∀ predicate ∈ predicates first (condition :: conditions),
              predicate.IsPlain := isPlain_predicates (List.forall_mem_cons.mpr h)
          rw [predicates, List.forall_mem_cons] at hplain
          obtain ⟨formula, hread, heval⟩ := exists_reads_items hplain.1
          obtain ⟨formulas, hreads, hevals⟩ := ih _ h.2 (Nat.succ.inj hlength)
          use formula :: formulas, .cons hread hreads
          rintro V interpretation row before rfl
          have hvalues : comparedValues (condition :: conditions) (column :: columns)
              = condition.arguments column ++ comparedValues conditions columns := rfl
          have hcount : condition.values.length = (condition.arguments column).length := by
            rw [Condition.arguments, List.length_map]
          rw [hvalues]
          apply List.Forall₂.cons
          · apply heval
            rw [hcount, ← List.append_assoc]
            apply mapM_argument?
          · rw [← List.append_assoc]
            apply hevals
            rw [List.length_append, hcount]
            omega

/-- The text of conditions is read as a formula whose value is that of the conditions. -/
theorem exists_readsText_conjunction
    (first : Nat) {conditions : List Condition} {columns : List Column} (hne : conditions ≠ [])
    (h : ∀ condition ∈ conditions, condition.IsPlain)
    (hlength : conditions.length = columns.length) :
  ∃ formula, Formula.ReadsText (conjunction (predicates first conditions)) formula
    ∧ ∀ {V : Type} (interpretation : Interpretation V) (row : String → V) (before : List Json),
      before.length + 1 = first →
      formula.eval interpretation row (before ++ comparedValues conditions columns)
        = some (conditionsTruth interpretation row conditions columns)
  := by
  obtain ⟨formulas, hreads, hevals⟩ := exists_reads_predicates first h hlength
  obtain ⟨condition, conditions, rfl⟩ := List.exists_cons_of_ne_nil hne
  cases columns with
  | nil => cases hlength
  | cons column columns =>
      obtain ⟨formula, rest, -, -, rfl⟩ := List.forall₂_cons_left_iff.mp hreads
      use rest.foldl .conjunction formula
      constructor
      · refine ⟨_, items?_conjunction (predicates_ne_nil hne) (isPlain_predicates h), ?_⟩
        apply Formula.Reads.ofConjunction
        apply Formula.reads_intercalate .ofTest .conjunction hreads
      · intro V interpretation row before hbefore
        obtain ⟨hformula, hrest⟩ := List.forall₂_cons.mp (hevals interpretation row before hbefore)
        rw [conditionsTruth, List.zipWith_cons_cons, Truth.all_cons]
        apply Formula.eval_foldl _ hformula hrest
        intro left right value other hleft hright
        rw [Formula.eval, hleft, hright]
        rfl

/-! ### Statements that mean their conditions -/

/-- A statement whose text has the conditions of a query between two texts. Without conditions
there is nothing between them. Otherwise the condition is read as one formula, and its value
on every row, with the arguments of the statement, is that of the conditions with the columns
that they mean. -/
structure MeansConditions
    (catalog : Catalog) (query : Query) (before after : String) (statement : Statement) :
    Prop where
  unconditional : query.conditions = [] → statement.sql = before ++ after
  conditional : query.conditions ≠ [] → ∃ condition formula columns,
    statement.sql = before ++ " WHERE " ++ condition ++ after
    ∧ (∀ other, Formula.ReadsText condition other ↔ other = formula)
    ∧ List.Forall₂ (fun condition column => query.Means catalog condition.column column)
      query.conditions columns
    ∧ ∀ (V : Type) (interpretation : Interpretation V) (row : String → V),
      formula.eval interpretation row statement.values
        = some (conditionsTruth interpretation row query.conditions columns)

/-- A statement that has the predicates of the conditions between two texts, and their arguments
after others, means the conditions. -/
theorem meansConditions_of_whereText
    {catalog : Catalog} {query : Query} {statement : Statement} {before after : String}
    {columns : List Column} (values : List Json) (hquery : query.WellFormed)
    (htable : ∃ table, catalog.table? query.table = some table)
    (hcolumns : Compares catalog query query.conditions columns)
    (hsql : statement.sql
      = before ++ whereText (predicates (values.length + 1) query.conditions) ++ after)
    (hvalues : statement.values = values ++ comparedValues query.conditions columns) :
  statement.MeansConditions catalog query before after
  := by
  constructor
  · intro hnil
    rw [hsql, hnil]
    simp [whereText, predicates]
  · intro hne
    obtain ⟨formula, hread, heval⟩ := exists_readsText_conjunction (values.length + 1) hne
      hquery.conditions hcolumns.length_eq
    use conjunction (predicates (values.length + 1) query.conditions), formula, columns
    constructor
    · rw [hsql, whereText_predicates hne, ← String.append_assoc]
    constructor
    · intro other
      constructor
      · intro hother
        apply hother.unique hread
      · rintro rfl
        apply hread
    constructor
    · apply means_of_compares hquery htable hcolumns
    · intro V interpretation row
      rw [hvalues]
      apply heval interpretation row values rfl

/-- The conditions of the statements that select, delete and change rows are read as one formula
each, whose value on every row is that of the conditions of the query. -/
theorem conditions_meant
    {operators : OperatorTable} {path : String} {query : Query} (catalog : Catalog)
    (hquery : Query.parsePath operators path = .ok query) :
  (∀ statement, select catalog query = .ok statement →
      statement.MeansConditions catalog query
        ("SELECT " ++ projectionText query.columns ++ " FROM " ++ query.table
          ++ String.join (query.joins.map joinText))
        (boundText "LIMIT" query.limit ++ boundText "OFFSET" query.offset))
    ∧ (∀ statement, delete catalog query = .ok statement → query.conditions ≠ []
      ∧ statement.MeansConditions catalog query ("DELETE FROM " ++ query.table) " RETURNING id")
    ∧ ∀ (record : Record) (statement : Statement),
      update catalog query record = .ok statement → query.conditions ≠ []
      ∧ statement.MeansConditions catalog query
        ("UPDATE " ++ query.table ++ " SET " ++ ", ".intercalate
          ((record.names.zip (List.range' 1 record.size)).map assignmentText))
        " RETURNING id"
  := by
  have hwellFormed := Query.wellFormed_of_parsePath hquery
  constructor
  · intro statement h
    obtain ⟨htable, -, -, columns, hcolumns, rfl⟩ := select_eq_ok_iff.mp h
    apply meansConditions_of_whereText [] hwellFormed htable hcolumns
    · rw [sql, Command.text_select, String.append_assoc]
      rfl
    · apply map_value_comparedArguments
  constructor
  · intro statement h
    obtain ⟨⟨hne, -⟩, htable, columns, hcolumns, rfl⟩ := delete_eq_ok_iff.mp h
    use hne
    apply meansConditions_of_whereText [] hwellFormed htable hcolumns
    · apply Command.text_delete
    · apply map_value_comparedArguments
  · intro record statement h
    obtain ⟨⟨hne, -⟩, table, htable, -, assigned, hassigned, columns, hcolumns, rfl⟩ :=
      update_eq_ok_iff.mp h
    use hne
    apply meansConditions_of_whereText (record.fields.map Prod.snd) hwellFormed
      ⟨table, htable⟩ hcolumns
    · rw [List.length_map]
      apply Command.text_update
    · rw [Statement.values, List.map_append, map_value_assignedArguments hassigned,
        map_value_comparedArguments]

theorem conditions_meant_library :
  Query.parsePath .standard libraryPath = .ok libraryQuery
    ∧ (∃ statement, select library libraryQuery = .ok statement
      ∧ statement.MeansConditions library libraryQuery "SELECT * FROM books" " LIMIT 5")
    ∧ (∃ statement, delete library libraryQuery = .ok statement
      ∧ statement.MeansConditions library libraryQuery "DELETE FROM books" " RETURNING id")
    ∧ ∃ statement, update library libraryQuery libraryRecord = .ok statement
      ∧ statement.MeansConditions library libraryQuery
        "UPDATE books SET title = $1, year = $2" " RETURNING id"
  := by
  obtain ⟨hselect, hdelete, hupdate⟩ := conditions_meant library parsePath_libraryPath
  use parsePath_libraryPath
  constructor
  · obtain ⟨statement, hstatement⟩ := exists_select_library
    use statement, hstatement
    apply hselect statement hstatement
  constructor
  · obtain ⟨statement, hstatement⟩ := exists_delete_library
    use statement, hstatement
    apply (hdelete statement hstatement).2
  · obtain ⟨statement, hstatement⟩ := exists_update_library
    use statement, hstatement
    apply (hupdate libraryRecord statement hstatement).2

end Statement

end TableGateway
