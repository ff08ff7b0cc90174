import TableGateway.Proofs.Database.Coercion
import TableGateway.Proofs.Sql.Meaning

/-!
# Negated operators

On values that are not null, a negated operator compares as the negation of its operator. A
condition with such an operator is the complement of the condition with the operator itself
if it has one value, or if it is a membership. Several values of any other operator are
alternatives, whether the operator is negated or not: the negated condition then holds as
soon as one value is not met, and it is the complement only where all values are met or
none is.
-/

namespace TableGateway

open Sql

/-- The negation of an operator, if there is one. -/
def Operator.negation? : Operator → Option Operator
  | equal => some notEqual
  | oneOf => some noneOf
  | like => some notLike
  | _ => none

theorem Operator.isNullTest_of_negation?
    {operator negation : Operator} (h : operator.negation? = some negation) :
  operator.isNullTest = false
  := by
  cases operator <;> cases h <;> rfl

namespace Sql

/-! ### Truth values of alternatives -/

namespace Truth

/-- Where something is known, its negation is true exactly if it is not. -/
theorem not_eq_true_iff {value : Truth} (h : value ≠ unknown) :
  value.not = true ↔ value ≠ true
  := by
  cases value <;> simp [not] at h ⊢

theorem ofBool_ne_unknown (b : Bool) :
  ofBool b ≠ unknown
  := by
  cases b <;> simp [ofBool]

theorem ofBool_not (b : Bool) :
  ofBool (!b) = (ofBool b).not
  := by
  cases b <;> rfl

/-- A disjunction is true exactly if one of its parts is. -/
theorem foldl_or_eq_true_iff {first : Truth} {rest : List Truth} :
  rest.foldl or first = true ↔ first = true ∨ true ∈ rest
  := by
  induction rest generalizing first with
  | nil => simp
  | cons second rest ih =>
      rw [List.foldl_cons, ih, List.mem_cons, ← or_assoc]
      apply or_congr_left
      cases first <;> cases second <;> simp [or]

/-- Alternatives are true exactly when one of them is. -/
theorem any_eq_true_iff {values : List Truth} :
  any values = true ↔ true ∈ values
  := by
  simp [any, foldl_or_eq_true_iff]

/-- A disjunction of known parts is known. -/
theorem foldl_or_ne_unknown
    {first : Truth} (hfirst : first ≠ unknown) {rest : List Truth}
    (hrest : ∀ value ∈ rest, value ≠ unknown) :
  rest.foldl or first ≠ unknown
  := by
  induction rest generalizing first with
  | nil => apply hfirst
  | cons second rest ih =>
      rw [List.forall_mem_cons] at hrest
      apply ih _ hrest.2
      have hsecond := hrest.1
      cases first <;> cases second <;> simp [or] at hfirst hsecond ⊢

/-- Alternatives are decided if each of them is. -/
theorem any_ne_unknown {values : List Truth} (h : ∀ value ∈ values, value ≠ unknown) :
  any values ≠ unknown
  := by
  apply foldl_or_ne_unknown _ h
  simp

end Truth

/-! ### Comparisons of values that are not null -/

/-- Comparisons that decide between values that are not null, and whose negated operators are the
negations. A membership in a list is a comparison with `=` already. -/
structure Interpretation.Decides {V : Type} (interpretation : Interpretation V) : Prop where
  decided : ∀ operator value argument,
    interpretation.isNull value = false → argument.kind ≠ .null →
      interpretation.compare operator value argument ≠ .unknown
  notEqual : ∀ value argument,
    interpretation.isNull value = false → argument.kind ≠ .null →
      interpretation.compare .notEqual value argument
        = (interpretation.compare .equal value argument).not
  notLike : ∀ value argument,
    interpretation.isNull value = false → argument.kind ≠ .null →
      interpretation.compare .notLike value argument
        = (interpretation.compare .like value argument).not

section Tests

variable {V : Type} {interpretation : Interpretation V} {value : V} {arguments : List Json}
  {operator negation : Operator}

/-- A value that meets an argument: the operator holds between the two, where a membership
compares for equality. -/
def Interpretation.Meets (interpretation : Interpretation V) (operator : Operator) (value : V)
    (argument : Json) : Prop :=
  interpretation.compare (if operator = .oneOf then .equal else operator) value argument = .true

/-- An operator that has a negation holds of a value that meets one of the arguments. -/
theorem test_eq_true_iff (h : operator.negation? = some negation) :
  interpretation.test operator value arguments = .true
    ↔ ∃ argument ∈ arguments, interpretation.Meets operator value argument
  := by
  cases operator <;> cases h <;>
    simp [Interpretation.test, Interpretation.membership, Operator.isNullTest,
      Operator.isMembership, Truth.any_eq_true_iff, Interpretation.Meets]

/-- The membership in none of the arguments is the complement of the membership in one. -/
theorem test_noneOf_eq_true_iff
    (hdecides : interpretation.Decides) (hvalue : interpretation.isNull value = false)
    (harguments : ∀ argument ∈ arguments, argument.kind ≠ .null) :
  interpretation.test .noneOf value arguments = .true
    ↔ ¬ interpretation.test .oneOf value arguments = .true
  := by
  simp only [Interpretation.test, Interpretation.membership]
  apply Truth.not_eq_true_iff
  apply Truth.any_ne_unknown
  rw [List.forall_mem_map]
  intro argument hargument
  apply hdecides.decided _ _ _ hvalue (harguments argument hargument)

/-- A negated comparison of a value that is not null is true exactly if the comparison is not met.
-/
theorem compare_negation_eq_true_iff
    (hdecides : interpretation.Decides) (hvalue : interpretation.isNull value = false)
    {argument : Json} (hargument : argument.kind ≠ .null)
    (h : operator.negation? = some negation) (hmembership : operator ≠ .oneOf) :
  interpretation.compare negation value argument = .true
    ↔ ¬ interpretation.Meets operator value argument
  := by
  have hdecided := fun operator => hdecides.decided operator value argument hvalue hargument
  rw [Interpretation.Meets, if_neg hmembership]
  cases operator <;> cases h
  · rw [hdecides.notEqual _ _ hvalue hargument, Truth.not_eq_true_iff (hdecided .equal)]
  · cases hmembership rfl
  · rw [hdecides.notLike _ _ hvalue hargument, Truth.not_eq_true_iff (hdecided .like)]

/-- Any other negation holds of a value that does not meet one of the arguments. -/
theorem test_negation_eq_true_iff
    (hdecides : interpretation.Decides) (hvalue : interpretation.isNull value = false)
    (harguments : ∀ argument ∈ arguments, argument.kind ≠ .null)
    (h : operator.negation? = some negation) (hmembership : operator ≠ .oneOf) :
  interpretation.test negation value arguments = .true
    ↔ ∃ argument ∈ arguments, ¬ interpretation.Meets operator value argument
  := by
  have htest : interpretation.test negation value arguments
      = .any (arguments.map (interpretation.compare negation value)) := by
    cases operator <;> cases h
    · rfl
    · cases hmembership rfl
    · rfl
  rw [htest, Truth.any_eq_true_iff, List.mem_map]
  apply exists_congr
  intro argument
  apply and_congr_right
  intro hargument
  apply compare_negation_eq_true_iff hdecides hvalue (harguments argument hargument) h hmembership

end Tests

/-- A text that is read as a condition which holds on a row. -/
def Formula.Holds
    {V : Type} (interpretation : Interpretation V) (row : String → V) (arguments : List Json)
    (text : String) : Prop :=
  ∃ formula, ReadsText text formula ∧ formula.eval interpretation row arguments = some .true

end Sql

/-! ### Conditions in statements -/

/-- No text is coerced to a null. -/
theorem ColumnType.kind_coerce_ne_null (type : ColumnType) (text : String) :
  (type.coerce text).kind ≠ .null
  := by
  have houtcome := Argument.outcome_ofText_ne_null 1 type text type.parameterKind
  rw [← Argument.outcome_ofFilter] at houtcome
  intro hnull
  apply houtcome
  rw [Argument.outcome, Argument.ofFilter, Argument.bind?]
  cases hvalue : type.coerce text with
  | null => rfl
  | _ =>
      rw [hvalue] at hnull
      cases hnull

/-- A condition with the column and the values of another one, and with the negation of its
operator. -/
structure Condition.NegatedBy (condition negated : Condition) : Prop where
  column : negated.column = condition.column
  operator : condition.operator.negation? = some negated.operator
  values : negated.values = condition.values

namespace Statement

/-- The text of a condition whose values are numbered from the first one on. -/
def conditionText (first : Nat) (condition : Condition) : String :=
  conjunction (predicates first [condition])

/-- A condition that holds on a row as it stands in a statement, where other arguments are in
front of its values and after them. -/
def ConditionHolds
    {V : Type} (interpretation : Interpretation V) (row : String → V) (column : Column)
    (before after : List Json) (condition : Condition) : Prop :=
  Formula.Holds interpretation row (before ++ condition.arguments column ++ after)
    (conditionText (before.length + 1) condition)

/-- A condition holds exactly if its truth value is true. -/
theorem conditionHolds_iff
    {V : Type} {interpretation : Interpretation V} {row : String → V} {condition : Condition}
    (h : condition.IsPlain) (column : Column) (before after : List Json) :
  ConditionHolds interpretation row column before after condition
    ↔ condition.truth interpretation row column = .true
  := by
  have hplain : ∀ predicate ∈ predicates (before.length + 1) [condition], predicate.IsPlain :=
    isPlain_predicates (List.forall_mem_singleton.mpr h)
  obtain ⟨formula, hread, heval⟩ := exists_reads_items (List.forall_mem_cons.mp hplain).1
  have hvalue : formula.eval interpretation row (before ++ condition.arguments column ++ after)
      = some (condition.truth interpretation row column) := by
    apply heval
    rw [← mapM_argument? before (condition.arguments column) after, Condition.arguments,
      List.length_map]
  have htext : Formula.ReadsText (conditionText (before.length + 1) condition) formula := by
    refine ⟨_, ?_, .ofConjunction (.ofTest hread)⟩
    rw [conditionText, items?_conjunction (predicates_ne_nil (List.cons_ne_nil condition [])) hplain]
    simp [predicates]
  constructor
  · rintro ⟨other, hother, htrue⟩
    rw [hother.unique htext, hvalue, Option.some.injEq] at htrue
    apply htrue
  · intro htrue
    use formula, htext
    rw [hvalue, htrue]

/-- The values of conditions one of which negates the other are the same arguments. -/
theorem truth_of_negatedBy
    {V : Type} {interpretation : Interpretation V} {row : String → V}
    {condition negated : Condition} (h : condition.NegatedBy negated) (column : Column) :
  negated.truth interpretation row column
    = interpretation.test negated.operator (row condition.column.text) (condition.arguments column)
  := by
  rw [Condition.truth, h.column, Condition.arguments, h.values, Condition.arguments]

theorem arguments_ne_nil_of_negatedBy
    {condition negated : Condition} (h : condition.NegatedBy negated) (column : Column) :
  condition.arguments column ≠ []
  := by
  have hvalid := condition.valid
  rw [Operator.isNullTest_of_negation? h.operator, List.isEmpty_eq_false_iff] at hvalid
  rwa [Condition.arguments, ne_eq, List.map_eq_nil_iff]

/-- Not to hold of some is the complement of holding of some if it is all or none. -/
theorem exists_not_iff_not_exists {α : Type} {xs : List α} (hxs : xs ≠ []) {p : α → Prop} :
  ((∃ x ∈ xs, ¬ p x) ↔ ¬ ∃ x ∈ xs, p x) ↔ (∀ x ∈ xs, p x) ∨ ∀ x ∈ xs, ¬ p x
  := by
  obtain ⟨first, rest, rfl⟩ := List.exists_cons_of_ne_nil hxs
  constructor
  · intro h
    by_cases hsome : ∃ x ∈ first :: rest, p x
    · left
      intro x hx
      by_contra hnot
      apply h.mp ⟨x, hx, hnot⟩ hsome
    · right
      intro x hx hp
      apply hsome ⟨x, hx, hp⟩
  · rintro (h | h)
    · constructor
      · rintro ⟨x, hx, hnot⟩
        cases hnot (h x hx)
      · intro hnone
        cases hnone ⟨first, List.mem_cons_self, h first List.mem_cons_self⟩
    · constructor
      · rintro - ⟨x, hx, hp⟩
        apply h x hx hp
      · intro _
        use first, List.mem_cons_self, h first List.mem_cons_self

/-- Where a column is not null, the membership in none of the values is the complement of the
membership in one. Any other negated condition holds if one of the values is not met, so it
is the complement exactly where all values are met or none is; with one value it always is. -/
theorem negated_conditions
    {V : Type} {interpretation : Interpretation V} (hdecides : interpretation.Decides)
    {condition negated : Condition} (hcondition : condition.IsPlain)
    (hnegated : condition.NegatedBy negated) {row : String → V}
    (hrow : interpretation.isNull (row condition.column.text) = false)
    (column : Column) (before after : List Json) :
  let holds := ConditionHolds interpretation row column before after
  let meets := interpretation.Meets condition.operator (row condition.column.text)
  (holds condition ↔ ∃ argument ∈ condition.arguments column, meets argument)
    ∧ (condition.operator = .oneOf → (holds negated ↔ ¬ holds condition))
    ∧ (condition.operator ≠ .oneOf →
      (holds negated ↔ ∃ argument ∈ condition.arguments column, ¬ meets argument)
      ∧ ((holds negated ↔ ¬ holds condition)
        ↔ (∀ argument ∈ condition.arguments column, meets argument)
          ∨ ∀ argument ∈ condition.arguments column, ¬ meets argument))
    ∧ (condition.values.length = 1 → (holds negated ↔ ¬ holds condition))
  := by
  intro holds meets
  have hoperator := hnegated.operator
  have harguments : ∀ argument ∈ condition.arguments column, argument.kind ≠ .null := by
    rw [Condition.arguments, List.forall_mem_map]
    intro text _
    apply ColumnType.kind_coerce_ne_null
  have hplain : negated.IsPlain := by
    constructor
    · rw [hnegated.column]
      apply hcondition.column
    · rw [hnegated.column]
      apply hcondition.label
  have hholds : holds condition ↔ ∃ argument ∈ condition.arguments column, meets argument := by
    rw [← test_eq_true_iff hoperator]
    apply conditionHolds_iff hcondition
  have htruth : holds negated ↔ interpretation.test negated.operator
      (row condition.column.text) (condition.arguments column) = .true := by
    rw [← truth_of_negatedBy hnegated column]
    apply conditionHolds_iff hplain
  have hmember : condition.operator = .oneOf → (holds negated ↔ ¬ holds condition) := by
    intro heq
    rw [heq] at hoperator
    rw [htruth, ← Option.some.inj hoperator, test_noneOf_eq_true_iff hdecides hrow harguments,
      ← heq]
    apply not_congr (conditionHolds_iff hcondition column before after).symm
  have hother : condition.operator ≠ .oneOf →
      (holds negated ↔ ∃ argument ∈ condition.arguments column, ¬ meets argument) := by
    intro hne
    rw [htruth, test_negation_eq_true_iff hdecides hrow harguments hoperator hne]
  have hcomplement : condition.operator ≠ .oneOf → ((holds negated ↔ ¬ holds condition)
      ↔ (∀ argument ∈ condition.arguments column, meets argument)
        ∨ ∀ argument ∈ condition.arguments column, ¬ meets argument) := by
    intro hne
    rw [hother hne, hholds]
    apply exists_not_iff_not_exists (arguments_ne_nil_of_negatedBy hnegated column)
  use hholds, hmember, fun hne => ⟨hother hne, hcomplement hne⟩
  intro hlength
  by_cases heq : condition.operator = .oneOf
  · apply hmember heq
  · obtain ⟨text, htext⟩ := List.length_eq_one_iff.mp hlength
    rw [hcomplement heq, Condition.arguments, htext, List.map_singleton]
    simp only [List.forall_mem_singleton]
    apply Classical.em

/-! ### Readings

A table of readings, in whose states texts are compared. -/

/-- The text that an argument is compared as. -/
def comparedText : Json → String
  | .string text => text
  | other => other.compact

/-- Texts are compared as they are, and a missing text with nothing. -/
def textComparison : Interpretation (Option String) where
  isNull := Option.isNone
  compare operator value argument :=
    match value with
    | none => .unknown
    | some text => .ofBool <|
      match operator with
      | .notEqual | .notLike => text != comparedText argument
      | .below => text < comparedText argument
      | .atMost => text ≤ comparedText argument
      | .above => comparedText argument < text
      | .atLeast => comparedText argument ≤ text
      | _ => text == comparedText argument

theorem decides_textComparison :
  textComparison.Decides
  where
  decided := by
    intro operator value argument hvalue _
    cases value with
    | none => cases hvalue
    | some text => apply Truth.ofBool_ne_unknown
  notEqual := by
    intro value argument hvalue _
    cases value with
    | none => cases hvalue
    | some text => apply Truth.ofBool_not
  notLike := by
    intro value argument hvalue _
    cases value with
    | none => cases hvalue
    | some text => apply Truth.ofBool_not

/-- The column that the conditions below are about. -/
def stateColumn : Column :=
  ⟨"state", .string⟩

/-- A catalog of readings. -/
def readings : Catalog :=
  .ofTables [.ofColumns "readings" [⟨"id", .int⟩, stateColumn]]

/-- A reading whose state is one of two. -/
def included : Condition :=
  ⟨⟨none, "state", none⟩, .equal, ["new", "old"], rfl⟩

/-- A reading whose state is not one of the two. -/
def excluded : Condition :=
  ⟨⟨none, "state", none⟩, .notEqual, ["new", "old"], rfl⟩

theorem negatedBy_excluded :
  included.NegatedBy excluded
  where
  column := rfl
  operator := rfl
  values := rfl

/-- A reading that is new. -/
def newReading : String → Option String :=
  fun _ => some "new"

/-- A new reading meets one of the two values and does not meet the other one, so both
conditions hold of it. -/
theorem negated_conditions_readings :
  textComparison.Decides ∧ included.IsPlain ∧ included.NegatedBy excluded
    ∧ textComparison.isNull (newReading included.column.text) = false
    ∧ ConditionHolds textComparison newReading stateColumn [] [] included
    ∧ ConditionHolds textComparison newReading stateColumn [] [] excluded
    ∧ ¬ ((∀ argument ∈ included.arguments stateColumn,
        textComparison.Meets .equal (some "new") argument)
      ∨ ∀ argument ∈ included.arguments stateColumn,
        ¬ textComparison.Meets .equal (some "new") argument)
  := by
  have hplain : included.IsPlain := by decide
  have hrow : textComparison.isNull (newReading included.column.text) = false := rfl
  obtain ⟨hincluded, -, hother, -⟩ :=
    negated_conditions decides_textComparison hplain negatedBy_excluded hrow stateColumn [] []
  obtain ⟨hexcluded, hcomplement⟩ := hother (by decide)
  have hnew : textComparison.Meets .equal (some "new") (.string "new") := rfl
  have hold : ¬ textComparison.Meets .equal (some "new") (.string "old") := by
    unfold Interpretation.Meets
    decide +kernel
  have hholds := hincluded.mpr ⟨.string "new", List.mem_cons_self, hnew⟩
  have hnegated := hexcluded.mpr
    ⟨.string "old", List.mem_cons_of_mem _ List.mem_cons_self, hold⟩
  use decides_textComparison, hplain, negatedBy_excluded, hrow, hholds, hnegated
  intro halike
  apply (hcomplement.mpr halike).mp hnegated hholds

/-- A deletion that means to spare the readings of two states deletes those of both: the condition
and its negation hold of the same reading. -/
theorem both_conditions_hold :
  Query.parsePath .standard "/readings?where=state!=new,old"
      = .ok { Query.ofTable "readings" with conditions := [excluded] }
    ∧ (∃ statement,
      delete readings { Query.ofTable "readings" with conditions := [excluded] } = .ok statement
      ∧ statement.sql = "DELETE FROM readings WHERE " ++ conditionText 1 excluded ++ " RETURNING id"
      ∧ conditionText 1 excluded = "(state != $1 OR state != $2)"
      ∧ statement.values = excluded.arguments stateColumn)
    ∧ included.NegatedBy excluded ∧ textComparison.Decides
    ∧ textComparison.isNull (newReading "state") = false
    ∧ ConditionHolds textComparison newReading stateColumn [] [] included
    ∧ ConditionHolds textComparison newReading stateColumn [] [] excluded
  := by
  refine ⟨?_, ⟨_, rfl, ?_, ?_, rfl⟩, negatedBy_excluded, decides_textComparison, rfl, ?_, ?_⟩
  · decide +kernel
  · decide +kernel
  · decide +kernel
  · rw [conditionHolds_iff (by decide)]
    decide +kernel
  · rw [conditionHolds_iff (by decide)]
    decide +kernel

end Statement

end TableGateway
