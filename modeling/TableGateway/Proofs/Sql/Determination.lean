import TableGateway.Proofs.Sql.Independence
import TableGateway.Proofs.Sql.Selection
import TableGateway.Proofs.Text.Joining

/-!
# Selections determine queries

The text of a selection is read as what it says, so queries whose selections have one text
say the same. And what a selection says determines the query but for the values of its
conditions: a reference is determined by its text, since no name has a point, and a
condition by the parts of its predicate, which are found between the conjunctions.
-/

namespace TableGateway.Sql

/-! ### What parts of texts determine -/

/-- A reference is cut from its text: a point in it can only stand after a table. -/
theorem cutAt?_columnText {column : ColumnRef} (h : column.IsPlain) :
  Text.cutAt? '.' column.text.toList
    = column.qualifier.map fun qualifier => (qualifier.toList, column.name.toList)
  := by
  have hpoint : ∀ {name : String}, IsName name → '.' ∉ name.toList := by
    intro name hname hmem
    cases hname.isIdentifierChar '.' hmem
  rw [ColumnRef.text]
  split
  · rename_i qualifier hqualifier
    rw [hqualifier, String.toList_append, String.toList_append, List.append_assoc]
    apply Text.cutAt?_append
    apply hpoint (h.qualifier qualifier hqualifier)
  · rename_i hqualifier
    rw [hqualifier]
    apply Text.cutAt?_eq_none_iff.mpr (hpoint h.name)

/-- A reference is determined by its text and its label. -/
theorem eq_of_columnText_eq
    {column other : ColumnRef} (h : column.IsPlain) (hother : other.IsPlain)
    (htext : column.text = other.text) (hlabel : column.label = other.label) :
  column = other
  := by
  have hcut := cutAt?_columnText h
  rw [htext, cutAt?_columnText hother] at hcut
  obtain ⟨qualifier, name, label⟩ := column
  obtain ⟨qualifier', name', label'⟩ := other
  obtain rfl : label = label' := hlabel
  cases qualifier with
  | none =>
      cases qualifier' with
      | none =>
          obtain rfl : name = name' := htext
          rfl
      | some qualifier' => cases hcut
  | some qualifier =>
      cases qualifier' with
      | none => cases hcut
      | some qualifier' =>
          simp only [Option.map_some, Option.some.injEq, Prod.mk.injEq, String.toList_inj] at hcut
          rw [hcut.1, hcut.2]

/-- A join is determined by its kind, its table and the texts of its columns. -/
theorem eq_of_joinTexts_eq
    {join other : Join} (h : join.IsPlain) (hother : other.IsPlain)
    (heq : (join.kind, join.table, join.left.text, join.right.text)
      = (other.kind, other.table, other.left.text, other.right.text)) :
  join = other
  := by
  simp only [Prod.mk.injEq] at heq
  obtain ⟨hkind, htable, hleft, hright⟩ := heq
  have hleft := eq_of_columnText_eq h.left.toIsPlain hother.left.toIsPlain hleft
    (by rw [h.left.unlabelled, hother.left.unlabelled])
  have hright := eq_of_columnText_eq h.right.toIsPlain hother.right.toIsPlain hright
    (by rw [h.right.unlabelled, hother.right.unlabelled])
  cases join
  cases other
  rw [Join.mk.injEq]
  use hkind, htable, hleft, hright

/-- The column and the operator of a comparison. -/
def Item.subject? : Item → Option (String × Operator)
  | nullTest column operator => some (column, operator)
  | comparison column operator _ => some (column, operator)
  | membership column operator _ => some (column, operator)
  | _ => none

/-- The parts of a predicate are about its column and its operator. -/
theorem findSome?_subject?_items {predicate : Predicate} (h : predicate.IsPlain) :
  predicate.items.findSome? Item.subject? = some (predicate.column.text, predicate.operator)
  := by
  have hempty := h.arguments
  rw [Predicate.items]
  split
  · rfl
  · rename_i hnull
    split
    · rfl
    · split
      · rfl
      · rw [Bool.eq_false_iff.mpr hnull, List.isEmpty_eq_false_iff] at hempty
        obtain ⟨argument, rest, harguments⟩ := List.exists_cons_of_ne_nil hempty
        rw [harguments]
        cases rest <;> rfl

theorem items_ne_nil {predicate : Predicate} (h : predicate.IsPlain) :
  predicate.items ≠ []
  := by
  intro hnil
  have hsubject := findSome?_subject?_items h
  rw [hnil] at hsubject
  cases hsubject

theorem conjunction_not_mem_items (predicate : Predicate) :
  Item.conjunction ∉ predicate.items
  := by
  rw [Predicate.items]
  split
  · simp
  · split
    · simp
    · split
      · simp
      · simp only [List.mem_append, List.mem_singleton, reduceCtorEq, false_or, or_false]
        apply Text.not_mem_intercalate
        · simp
        · simp

/-- Lists whose elements agree in what they are mapped to agree element by element. -/
theorem forall₂_of_map_eq
    {α β : Type} {f : α → β} {P : α → Prop} {xs ys : List α}
    (hxs : ∀ x ∈ xs, P x) (hys : ∀ y ∈ ys, P y) (h : xs.map f = ys.map f) :
  List.Forall₂ (fun x y => P x ∧ P y ∧ f x = f y) xs ys
  := by
  induction xs generalizing ys with
  | nil =>
      rw [List.map_eq_nil_iff.mp h.symm]
      apply List.Forall₂.nil
  | cons x xs ih =>
      obtain ⟨y, ys, rfl, heq, hrest⟩ := List.map_eq_cons_iff.mp h.symm
      rw [List.forall_mem_cons] at hxs hys
      apply List.Forall₂.cons ⟨hxs.1, hys.1, heq.symm⟩
      apply ih hxs.2 hys.2 hrest.symm

theorem eq_of_map_eq
    {α β : Type} {f : α → β} {P : α → Prop} (hf : ∀ x y, P x → P y → f x = f y → x = y)
    {xs ys : List α} (hxs : ∀ x ∈ xs, P x) (hys : ∀ y ∈ ys, P y) (h : xs.map f = ys.map f) :
  xs = ys
  := by
  rw [← List.forall₂_eq_eq_eq]
  apply (forall₂_of_map_eq hxs hys h).imp
  rintro x y ⟨hx, hy, heq⟩
  apply hf x y hx hy heq

end TableGateway.Sql

namespace TableGateway.Statement

open Sql

/-- The parts of the predicates of conditions tell the column, the operator and the number of
the values of each condition. -/
theorem map_items_predicates
    (first : Nat) {conditions : List Condition}
    (h : ∀ condition ∈ conditions, condition.IsPlain) :
  ((predicates first conditions).map Predicate.items).map
      (fun items => (items.findSome? Item.subject?, (items.flatMap Item.places).length))
    = conditions.map fun condition =>
      (some (condition.column.text, condition.operator), condition.values.length)
  := by
  have hplain : ∀ predicate ∈ predicates first conditions, predicate.IsPlain :=
    isPlain_predicates h
  induction conditions generalizing first with
  | nil => rfl
  | cons condition rest ih =>
      rw [List.forall_mem_cons] at h
      rw [predicates, List.forall_mem_cons] at hplain
      rw [predicates, List.map_cons, List.map_cons, ih _ h.2 hplain.2, List.map_cons,
        findSome?_subject?_items hplain.1, flatMap_items hplain.1, Predicate.places,
        List.length_map, List.length_range']

/-- Conditions whose texts have the same parts differ in nothing but values. -/
theorem sameShape_of_items_eq
    {first first' : Nat} {conditions others : List Condition}
    (h : ∀ condition ∈ conditions, condition.IsPlain)
    (hothers : ∀ condition ∈ others, condition.IsPlain)
    (heq : [Item.conjunction].intercalate ((predicates first conditions).map Predicate.items)
      = [Item.conjunction].intercalate ((predicates first' others).map Predicate.items)) :
  List.Forall₂ Condition.SameShape conditions others
  := by
  have hne : ∀ {first conditions}, (∀ condition ∈ conditions, condition.IsPlain) →
      ∀ items ∈ (predicates first conditions).map Predicate.items, items ≠ [] := by
    intro first conditions h
    rw [List.forall_mem_map]
    intro predicate hpredicate
    apply items_ne_nil (isPlain_predicates h predicate hpredicate)
  have hconjunction : ∀ {first conditions},
      ∀ items ∈ (predicates first conditions).map Predicate.items, Item.conjunction ∉ items := by
    intro first conditions
    rw [List.forall_mem_map]
    intro predicate _
    apply conjunction_not_mem_items
  have hitems := Text.eq_of_intercalate_eq (hne h) hconjunction (hne hothers) hconjunction heq
  have hshapes := map_items_predicates first h
  rw [hitems, map_items_predicates first' hothers] at hshapes
  apply (forall₂_of_map_eq h hothers hshapes.symm).imp
  rintro condition other ⟨hcondition, hother, hshape⟩
  simp only [Prod.mk.injEq, Option.some.injEq] at hshape
  obtain ⟨⟨htext, hoperator⟩, hlength⟩ := hshape
  constructor
  · apply eq_of_columnText_eq hcondition.column hother.column htext
    rw [hcondition.label, hother.label]
  · apply hoperator
  · apply hlength

/-- Queries whose selections say the same differ in nothing but values. -/
theorem sameShape_of_ofQuery_eq
    {query other : Query} (hquery : query.WellFormed) (hother : other.WellFormed)
    (h : Selection.ofQuery query = Selection.ofQuery other) :
  query.SameShape other
  := by
  simp only [Selection.ofQuery, Selection.mk.injEq] at h
  obtain ⟨hcolumns, htable, hjoins, hitems, hlimit, hoffset⟩ := h
  have hjoins : query.joins = other.joins := by
    apply eq_of_map_eq (fun _ _ => eq_of_joinTexts_eq) hquery.joins hother.joins hjoins
  constructor
  · apply htable
  · rw [hquery.tables, hother.tables, htable, hjoins]
  · apply eq_of_map_eq _ hquery.columns hother.columns hcolumns
    intro column column' hplain hplain' heq
    rw [Prod.mk.injEq] at heq
    apply eq_of_columnText_eq hplain hplain' heq.1 heq.2
  · apply sameShape_of_items_eq hquery.conditions hother.conditions hitems
  · apply hjoins
  · apply hlimit
  · apply hoffset

/-- Two queries that are read from paths differ in nothing but the values of their conditions
if they select rows with the same text. -/
theorem sameShape_of_sql_eq
    {operators operators' : OperatorTable} {path path' : String} {query query' : Query}
    {catalog catalog' : Catalog} {statement statement' : Statement}
    (hquery : Query.parsePath operators path = .ok query)
    (hquery' : Query.parsePath operators' path' = .ok query')
    (h : select catalog query = .ok statement) (h' : select catalog' query' = .ok statement')
    (hsql : statement.sql = statement'.sql) :
  query.SameShape query'
  := by
  have hwellFormed := Query.wellFormed_of_parsePath hquery
  have hwellFormed' := Query.wellFormed_of_parsePath hquery'
  obtain ⟨-, -, -, _, -, rfl⟩ := select_eq_ok_iff.mp h
  obtain ⟨-, -, -, _, -, rfl⟩ := select_eq_ok_iff.mp h'
  have hread := Selection.ofText?_select hwellFormed
  have hread' := Selection.ofText?_select hwellFormed'
  simp only [sql] at hsql
  rw [hsql, hread', Option.some.injEq] at hread
  apply sameShape_of_ofQuery_eq hwellFormed hwellFormed' hread.symm

/-- A catalog whose tables and columns are named like keywords. -/
def keywordCatalog : Catalog :=
  .ofTables [
    .ofColumns "WHERE" [⟨"FROM", .string⟩, ⟨"AS", .string⟩],
    .ofColumns "JOIN" [⟨"ON", .string⟩, ⟨"LIMIT", .string⟩]]

/-- A query about these tables that compares columns with two values. -/
def keywordQuery (first second : String) : Query where
  table := "WHERE"
  tables := ["WHERE", "JOIN"]
  columns := [⟨none, "FROM", some "AS"⟩, ⟨some "JOIN", "LIMIT", none⟩]
  conditions := [
    ⟨⟨none, "AS", none⟩, .isNull, [], by decide⟩,
    ⟨⟨none, "LIMIT", none⟩, .notEqual, [first, second], rfl⟩]
  joins := [⟨.left, "JOIN", ⟨some "WHERE", "FROM", none⟩, ⟨some "JOIN", "ON", none⟩⟩]
  limit := none
  offset := some 7

/-- A path of the query, with the texts of the two values. -/
def keywordPath (values : String) : String :=
  "/WHERE?select=FROM:AS,JOIN.LIMIT&left_join=JOIN:WHERE.FROM==JOIN.ON&where=AS=na=;LIMIT!="
    ++ values ++ "&offset=7"

/-- Two queries with different values, about tables and columns named like keywords, select rows
with the same text. -/
theorem sameShape_of_sql_eq_keywords :
  ∃ query query' statement statement',
    Query.parsePath .standard (keywordPath "a,b") = .ok query
    ∧ Query.parsePath .standard (keywordPath ",AND") = .ok query'
    ∧ select keywordCatalog query = .ok statement
    ∧ select keywordCatalog query' = .ok statement'
    ∧ statement.sql = statement'.sql ∧ query ≠ query' ∧ query.SameShape query'
  := by
  have hparse : Query.parsePath .standard (keywordPath "a,b") = .ok (keywordQuery "a" "b") := by
    decide +kernel
  have hparse' : Query.parsePath .standard (keywordPath ",AND")
      = .ok (keywordQuery "" "AND") := by
    decide +kernel
  have hselect : ∀ first second, ∃ statement,
      select keywordCatalog (keywordQuery first second) = .ok statement
        ∧ statement.command = .select (keywordQuery "" "").columns "WHERE"
          (keywordQuery "" "").joins (predicates 1 (keywordQuery "" "").conditions) none (some 7) :=
    fun _ _ => ⟨_, rfl, rfl⟩
  obtain ⟨statement, h, hcommand⟩ := hselect "a" "b"
  obtain ⟨statement', h', hcommand'⟩ := hselect "" "AND"
  have hsql : statement.sql = statement'.sql := by
    rw [sql, sql, hcommand, hcommand']
  use keywordQuery "a" "b", keywordQuery "" "AND", statement, statement', hparse, hparse', h, h',
    hsql
  constructor
  · decide
  · apply sameShape_of_sql_eq hparse hparse' h h' hsql

end TableGateway.Statement
