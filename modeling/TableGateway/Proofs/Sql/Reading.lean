import TableGateway.Proofs.Sql.Word

/-!
# Reading conditions

The condition of a statement is read from its words, one at a time and from left to
right: a column, an operator, and the placeholders that the operator takes, then a word
that connects this comparison with the next one. What has been read decides what may
follow, so a name is a column where one is expected, however it is spelled, and a keyword
elsewhere.

The text of predicates that hold together is read as their comparisons, in order. So the
text says of each placeholder which column its argument is compared with.
-/

namespace TableGateway.Sql

/-- A part of a condition: a parenthesis, a connective, or a column with an operator and
the numbers of the arguments it is compared with. -/
inductive Item where
  | opening
  | closing
  | conjunction
  | disjunction
  | nullTest (column : String) (operator : Operator)
  | comparison (column : String) (operator : Operator) (argument : Nat)
  | membership (column : String) (operator : Operator) (arguments : List Nat)
  deriving DecidableEq

/-- The arguments in a part of a condition, each with the column that stands on the left of
its comparison. -/
def Item.places : Item → List (String × Nat)
  | comparison column _ argument => [(column, argument)]
  | membership column _ arguments => arguments.map fun argument => (column, argument)
  | _ => []

/-- What has been read of a comparison. -/
inductive Reading where
  | start
  | column (column : String)
  | negated (column : String)
  | tested (column : String)
  | testedNot (column : String)
  | value (column : String) (operator : Operator)
  | list (column : String) (operator : Operator)
  | argument (column : String) (operator : Operator) (arguments : List Nat)
  | listed (column : String) (operator : Operator) (arguments : List Nat)
  | finished
  deriving DecidableEq

namespace Reading

/-- The number of a placeholder. -/
def number? (word : String) : Option Nat :=
  match word.toList with
  | '$' :: digits => Number.natOfDigits? digits
  | _ => none

/-- The operator of a comparison with one value. -/
def comparison? (word : String) : Option Operator :=
  match word with
  | "=" => some .equal
  | "!=" => some .notEqual
  | "<=" => some .atMost
  | ">=" => some .atLeast
  | "<" => some .below
  | ">" => some .above
  | "LIKE" => some .like
  | _ => none

/-- One more word, with the parts of the condition that it completes. -/
def step : Reading → String → Option (Reading × List Item)
  | start, word =>
    if word = "(" then some (start, [.opening])
    else if IsWord word then some (column word, [])
    else none
  | column name, word =>
    match word with
    | "IN" => some (list name .oneOf, [])
    | "NOT" => some (negated name, [])
    | "IS" => some (tested name, [])
    | _ => (comparison? word).map fun operator => (value name operator, [])
  | negated name, word =>
    match word with
    | "IN" => some (list name .noneOf, [])
    | "LIKE" => some (value name .notLike, [])
    | _ => none
  | tested name, word =>
    match word with
    | "NULL" => some (finished, [.nullTest name .isNull])
    | "NOT" => some (testedNot name, [])
    | _ => none
  | testedNot name, word =>
    if word = "NULL" then some (finished, [.nullTest name .isNotNull]) else none
  | value name operator, word =>
    (number? word).map fun number => (finished, [.comparison name operator number])
  | list name operator, word =>
    if word = "(" then some (argument name operator [], []) else none
  | argument name operator arguments, word =>
    (number? word).map fun number => (listed name operator (arguments ++ [number]), [])
  | listed name operator arguments, word =>
    match word with
    | "," => some (argument name operator arguments, [])
    | ")" => some (finished, [.membership name operator arguments])
    | _ => none
  | finished, word =>
    match word with
    | "AND" => some (start, [.conjunction])
    | "OR" => some (start, [.disjunction])
    | ")" => some (finished, [.closing])
    | _ => none

/-- Any number of words, with the parts of the condition that they complete. -/
def run (reading : Reading) : List String → Option (Reading × List Item)
  | [] => some (reading, [])
  | word :: rest => do
    let (next, items) ← reading.step word
    let (last, more) ← run next rest
    return (last, items ++ more)

/-- Words are read one part after the other. -/
theorem run_append
    {reading next last : Reading} {words rest : List String} {items more : List Item}
    (h : reading.run words = some (next, items)) (hrest : next.run rest = some (last, more)) :
  reading.run (words ++ rest) = some (last, items ++ more)
  := by
  induction words generalizing reading items with
  | nil =>
      cases h
      apply hrest
  | cons word words ih =>
      simp only [run, Option.bind_eq_bind, Option.bind_eq_some_iff, Prod.exists] at h
      obtain ⟨middle, found, hstep, final, others, hrun, hpure⟩ := h
      cases hpure
      simp only [List.cons_append, run, hstep, ih hrun, Option.bind_eq_bind, Option.bind_some,
        List.append_assoc]
      rfl

/-! ### Reading a predicate -/

/-- The number of a placeholder is read back from it. -/
theorem number?_placeholder (n : Nat) :
  number? (placeholder n) = some n
  := by
  rw [number?, toList_placeholder]
  apply Number.natOfDigits?_natDigits

theorem run_column {name : String} (h : IsWord name) :
  start.run [name] = some (column name, [])
  := by
  have hname : name ≠ "(" := by
    rintro rfl
    cases h.2 '(' (by decide)
  simp [run, step, h, hname]

/-- What is expected after an operator. -/
def afterOperator (name : String) (operator : Operator) : Reading :=
  if operator.isNullTest then finished
  else if operator.isMembership then list name operator
  else value name operator

/-- What an operator completes. -/
def operatorItems (name : String) (operator : Operator) : List Item :=
  if operator.isNullTest then [.nullTest name operator] else []

/-- Each operator is read from its words, although some begin with the same ones. -/
theorem run_operator (name : String) (operator : Operator) :
  (column name).run (words operator.sql)
    = some (afterOperator name operator, operatorItems name operator)
  := by
  cases operator <;> rfl

theorem run_value (name : String) (operator : Operator) (argument : Nat) :
  (value name operator).run [placeholder argument]
    = some (finished, [.comparison name operator argument])
  := by
  rw [run, step, number?_placeholder]
  rfl

/-- The placeholders of a list are read one after the other. -/
theorem run_arguments
    (name : String) (operator : Operator) (found : List Nat) (argument : Nat)
    (rest : List Nat) :
  (Reading.argument name operator found).run
      ([","].intercalate ((argument :: rest).map fun n => [placeholder n]))
    = some (listed name operator (found ++ argument :: rest), [])
  := by
  induction rest generalizing found argument with
  | nil =>
      rw [List.map_singleton, List.intercalate_singleton, run, step, number?_placeholder]
      rfl
  | cons next rest ih =>
      rw [List.map_cons, List.map_cons, List.intercalate_cons_cons]
      have hfirst : (Reading.argument name operator found).run ([placeholder argument] ++ [","])
          = some (Reading.argument name operator (found ++ [argument]), []) := by
        rw [List.singleton_append, run, step, number?_placeholder]
        rfl
      have hrest := run_append hfirst (ih (found ++ [argument]) next)
      rw [List.append_assoc found, List.singleton_append] at hrest
      apply hrest

/-- Conditions that are joined by a connective are read one after the other. -/
theorem run_intercalate
    {mark word : String} {item : Item} (hmark : IsMark mark) (hwords : words mark = [word])
    (hstep : finished.step word = some (start, [item]))
    {α : Type} {text : α → String} {items : α → List Item} {first : α} {rest : List α}
    (h : ∀ x ∈ first :: rest, start.run (words (text x)) = some (finished, items x)) :
  start.run (words (mark.intercalate ((first :: rest).map text)))
    = some (finished, [item].intercalate ((first :: rest).map items))
  := by
  induction rest generalizing first with
  | nil =>
      rw [List.map_singleton, String.intercalate_singleton, List.map_singleton,
        List.intercalate_singleton]
      apply h first (List.mem_singleton_self first)
  | cons next rest ih =>
      rw [List.forall_mem_cons] at h
      have hconnective : finished.run (words mark) = some (start, [item]) := by
        rw [hwords, run, hstep]
        rfl
      simp only [List.map_cons, String.intercalate_cons_cons, List.intercalate_cons_cons]
      rw [words_append_mark_append hmark]
      apply run_append _ (ih h.2)
      apply run_append h.1 hconnective

end Reading

/-- The parts of a predicate. -/
def Predicate.items (predicate : Predicate) : List Item :=
  if predicate.operator.isNullTest then
    [.nullTest predicate.column.text predicate.operator]
  else if predicate.operator.isMembership then
    [.membership predicate.column.text predicate.operator predicate.arguments]
  else
    match predicate.arguments with
    | [argument] => [.comparison predicate.column.text predicate.operator argument]
    | arguments => [.opening] ++ [Item.disjunction].intercalate (arguments.map fun argument =>
        [.comparison predicate.column.text predicate.operator argument]) ++ [.closing]

/-- The column and the operator of a predicate are read first, and nothing more of a test for null.
-/
theorem run_start {predicate : Predicate} (h : predicate.IsPlain) :
  Reading.start.run (words (predicate.column.text ++ " " ++ predicate.operator.sql))
    = some (Reading.afterOperator predicate.column.text predicate.operator,
      Reading.operatorItems predicate.column.text predicate.operator)
  := by
  have hword := isWord_columnText h.column
  rw [words_append_mark_append (by decide), words_of_isWord hword]
  apply Reading.run_append (Reading.run_column hword)
  apply Reading.run_operator

/-- A comparison is read as one item. -/
theorem run_comparison {predicate : Predicate} (h : predicate.IsPlain)
    (hnull : predicate.operator.isNullTest = false)
    (hmembership : predicate.operator.isMembership = false) (argument : Nat) :
  Reading.start.run (words (predicate.comparison argument))
    = some (.finished, [.comparison predicate.column.text predicate.operator argument])
  := by
  have hstart := run_start h
  simp only [Reading.afterOperator, Reading.operatorItems, hnull, hmembership,
    Bool.false_eq_true, ↓reduceIte] at hstart
  have hblank : words " " = [] := rfl
  rw [Predicate.comparison, words_append_mark_append (by decide), hblank, List.append_nil,
    words_placeholder]
  apply Reading.run_append hstart (Reading.run_value _ _ argument)

/-- A comparison with a list is read as one item for each argument. -/
theorem run_membership {predicate : Predicate} (h : predicate.IsPlain)
    (hnull : predicate.operator.isNullTest = false)
    (hmembership : predicate.operator.isMembership = true)
    {argument : Nat} {rest : List Nat} (harguments : predicate.arguments = argument :: rest) :
  Reading.start.run (words (predicate.column.text ++ " " ++ predicate.operator.sql ++ " ("
      ++ ",".intercalate (predicate.arguments.map placeholder) ++ ")"))
    = some (.finished,
      [.membership predicate.column.text predicate.operator predicate.arguments])
  := by
  have hstart := run_start h
  simp only [Reading.afterOperator, Reading.operatorItems, hnull, hmembership,
    Bool.false_eq_true, ↓reduceIte] at hstart
  have hopening : words " (" = ["("] := rfl
  have hcomma : words "," = [","] := rfl
  have hclosing : words ")" = [")"] := rfl
  have hplaceholders : words ∘ placeholder = fun n => [placeholder n] := by
    funext n
    apply words_placeholder
  rw [words_append_mark (by decide), words_append_mark_append (by decide),
    words_intercalate (by decide), List.map_map, hopening, hcomma, hclosing, hplaceholders,
    harguments]
  -- The state before the parenthesis is that of an empty list of arguments.
  have hlist : (Reading.list predicate.column.text predicate.operator).run ["("]
      = some (Reading.argument predicate.column.text predicate.operator [], []) := rfl
  have hlast : (Reading.listed predicate.column.text predicate.operator (argument :: rest)).run
      [")"] = some (Reading.finished,
        [.membership predicate.column.text predicate.operator (argument :: rest)]) := rfl
  have harguments := Reading.run_arguments predicate.column.text predicate.operator []
    argument rest
  apply Reading.run_append (Reading.run_append (Reading.run_append hstart hlist) harguments) hlast

/-- A predicate is read as its parts, whichever way its operator is written. -/
theorem run_predicate {predicate : Predicate} (h : predicate.IsPlain) :
  Reading.start.run (words predicate.text) = some (.finished, predicate.items)
  := by
  have hempty := h.arguments
  rw [Predicate.text, Predicate.items]
  cases hnull : predicate.operator.isNullTest with
  | true =>
      have hstart := run_start h
      simp only [Reading.afterOperator, Reading.operatorItems, hnull, ↓reduceIte] at hstart
      apply hstart
  | false =>
      rw [hnull, List.isEmpty_eq_false_iff] at hempty
      obtain ⟨argument, rest, harguments⟩ := List.exists_cons_of_ne_nil hempty
      cases hmembership : predicate.operator.isMembership with
      | true => apply run_membership h hnull hmembership harguments
      | false =>
          rw [harguments]
          cases rest with
          | nil => apply run_comparison h hnull hmembership
          | cons second rest =>
              have hopening : Reading.start.run (words "(") = some (.start, [.opening]) := rfl
              have hclosing : Reading.finished.run (words ")")
                  = some (.finished, [.closing]) := rfl
              simp only [Bool.false_eq_true, ↓reduceIte]
              rw [words_append_mark (by decide), words_mark_append (by decide)]
              apply Reading.run_append _ hclosing
              apply Reading.run_append hopening
              apply Reading.run_intercalate (by decide) rfl rfl
              intro x _
              apply run_comparison h hnull hmembership

/-! ### Reading a condition -/

/-- The parts of a condition, if its text is one. -/
def items? (condition : String) : Option (List Item) :=
  match Reading.start.run (words condition) with
  | some (.finished, items) => some items
  | _ => none

/-- The arguments of a condition in the order of their placeholders, each with the column
that stands on the left of its comparison. -/
def places? (condition : String) : Option (List (String × Nat)) :=
  (items? condition).map fun items => items.flatMap Item.places

/-- The arguments of a predicate, each with the column of the predicate. -/
def Predicate.places (predicate : Predicate) : List (String × Nat) :=
  predicate.arguments.map fun argument => (predicate.column.text, argument)

theorem flatMap_intercalate
    {α : Type} {item : Item} (hitem : item.places = []) (items : α → List Item) (xs : List α) :
  ([item].intercalate (xs.map items)).flatMap Item.places
    = xs.flatMap fun x => (items x).flatMap Item.places
  := by
  induction xs with
  | nil => rfl
  | cons first rest ih =>
      cases rest with
      | nil => simp
      | cons second rest =>
          simp only [List.map_cons, List.intercalate_cons_cons, List.flatMap_append,
            List.flatMap_cons, List.flatMap_nil, hitem, List.append_nil] at ih ⊢
          rw [ih]

/-- The places of a predicate are those of its items. -/
theorem flatMap_items {predicate : Predicate} (h : predicate.IsPlain) :
  predicate.items.flatMap Item.places = predicate.places
  := by
  have hempty := h.arguments
  rw [Predicate.items, Predicate.places]
  split
  · rename_i hnull
    rw [hnull, List.isEmpty_iff] at hempty
    rw [hempty]
    rfl
  · split
    · simp [Item.places]
    · split
      · rename_i argument hargument
        rw [hargument]
        rfl
      · rw [List.flatMap_append, List.flatMap_append, flatMap_intercalate rfl]
        simp [Item.places, List.map_eq_flatMap]

/-- The text of predicates that hold together is read as their parts, one predicate after
the other. -/
theorem items?_conjunction {predicates : List Predicate} (hne : predicates ≠ [])
    (h : ∀ predicate ∈ predicates, predicate.IsPlain) :
  items? (conjunction predicates)
    = some ([Item.conjunction].intercalate (predicates.map Predicate.items))
  := by
  obtain ⟨first, rest, rfl⟩ := List.exists_cons_of_ne_nil hne
  have hmark : IsMark " AND " := by decide
  have hstep : Reading.finished.step "AND" = some (.start, [Item.conjunction]) := rfl
  rw [items?, conjunction, Reading.run_intercalate hmark rfl hstep
    (fun predicate hpredicate => run_predicate (h predicate hpredicate))]

/-- The text of predicates that hold together is read as a condition in which each argument
stands in a comparison with the column of its predicate. -/
theorem places?_conjunction {predicates : List Predicate} (hne : predicates ≠ [])
    (h : ∀ predicate ∈ predicates, predicate.IsPlain) :
  places? (conjunction predicates) = some (predicates.flatMap Predicate.places)
  := by
  rw [places?, items?_conjunction hne h, Option.map_some, flatMap_intercalate rfl,
    Option.some.injEq]
  apply List.flatMap_congr
  intro predicate hpredicate
  apply flatMap_items (h predicate hpredicate)

end TableGateway.Sql
