import TableGateway.Proofs.Sql.Reading

/-!
# Reading selections

What a selection says is read from the words of its text, one at a time and from left to
right. What has been read decides what may follow: where a name is expected, every word is
one, however it is spelled, and where a keyword is expected, no name can stand.

The text of a selection is read as what the command says of its query.
-/

namespace TableGateway.Sql

open Outcome

/-- What the text of a selection says. Columns are given as they stand in the text, and the
condition by its parts. -/
structure Selection where
  columns : List (String × Option String)
  table : String
  joins : List (JoinKind × String × String × String)
  items : List Item
  limit : Option Nat
  offset : Option Nat
  deriving DecidableEq

namespace Selection

/-- The selection of which nothing has been read. -/
def empty : Selection where
  columns := []
  table := ""
  joins := []
  items := []
  limit := none
  offset := none

/-- What may follow in a selection. -/
inductive Expected where
  | start
  | columns
  | afterColumn (column : String)
  | label (column : String)
  | afterLabel
  | table
  | joins
  | joining (kind : JoinKind)
  | joined (kind : JoinKind)
  | relation (kind : JoinKind) (table : String)
  | left (kind : JoinKind) (table : String)
  | equality (kind : JoinKind) (table left : String)
  | right (kind : JoinKind) (table left : String)
  | condition (reading : Reading)
  | bound (bound : RowBound)
  | bounds
  deriving DecidableEq

/-- The bound of rows that a keyword announces. -/
def bound? (word : String) : Option Expected :=
  match word with
  | "LIMIT" => some (.bound .limit)
  | "OFFSET" => some (.bound .offset)
  | _ => none

/-- The selection with more columns. -/
def addColumns (selection : Selection) (columns : List (String × Option String)) : Selection :=
  { selection with columns := selection.columns ++ columns }

/-- The selection from a table. -/
def withTable (selection : Selection) (table : String) : Selection :=
  { selection with table }

/-- The selection with more joins. -/
def addJoins (selection : Selection) (joins : List (JoinKind × String × String × String)) :
    Selection :=
  { selection with joins := selection.joins ++ joins }

/-- The selection with more parts of its condition. -/
def addItems (selection : Selection) (items : List Item) : Selection :=
  { selection with items := selection.items ++ items }

/-- The selection with a bound of rows. -/
def withBound (selection : Selection) : RowBound → Nat → Selection
  | .limit, rows => { selection with limit := some rows }
  | .offset, rows => { selection with offset := some rows }

@[simp]
theorem addColumns_nil (selection : Selection) :
  selection.addColumns [] = selection
  := by
  rw [addColumns, List.append_nil]

/-- Columns may be added one after the other or all at once. -/
@[simp]
theorem addColumns_addColumns
    (selection : Selection) (columns others : List (String × Option String)) :
  (selection.addColumns columns).addColumns others = selection.addColumns (columns ++ others)
  := by
  simp only [addColumns, List.append_assoc]

@[simp]
theorem addJoins_nil (selection : Selection) :
  selection.addJoins [] = selection
  := by
  rw [addJoins, List.append_nil]

/-- Joins may be added one after the other or all at once. -/
@[simp]
theorem addJoins_addJoins
    (selection : Selection) (joins others : List (JoinKind × String × String × String)) :
  (selection.addJoins joins).addJoins others = selection.addJoins (joins ++ others)
  := by
  simp only [addJoins, List.append_assoc]

@[simp]
theorem addItems_nil (selection : Selection) :
  selection.addItems [] = selection
  := by
  rw [addItems, List.append_nil]

/-- Items of the condition may be added one after the other or all at once. -/
@[simp]
theorem addItems_addItems (selection : Selection) (items others : List Item) :
  (selection.addItems items).addItems others = selection.addItems (items ++ others)
  := by
  simp only [addItems, List.append_assoc]

/-- One more word of a selection. -/
def step : Selection × Expected → String → Option (Selection × Expected)
  | (selection, .start), word =>
    if word = "SELECT" then some (selection, .columns) else none
  | (selection, .columns), word =>
    if word = "*" then some (selection, .afterLabel) else some (selection, .afterColumn word)
  | (selection, .afterColumn column), word =>
    match word with
    | "AS" => some (selection, .label column)
    | "," => some (selection.addColumns [(column, none)], .columns)
    | "FROM" => some (selection.addColumns [(column, none)], .table)
    | _ => none
  | (selection, .label column), word =>
    some (selection.addColumns [(column, some word)], .afterLabel)
  | (selection, .afterLabel), word =>
    match word with
    | "," => some (selection, .columns)
    | "FROM" => some (selection, .table)
    | _ => none
  | (selection, .table), word => some (selection.withTable word, .joins)
  | (selection, .joins), word =>
    match word with
    | "JOIN" => some (selection, .joined .plain)
    | "INNER" => some (selection, .joining .inner)
    | "LEFT" => some (selection, .joining .left)
    | "RIGHT" => some (selection, .joining .right)
    | "WHERE" => some (selection, .condition .start)
    | _ => (bound? word).map fun expected => (selection, expected)
  | (selection, .joining kind), word =>
    if word = "JOIN" then some (selection, .joined kind) else none
  | (selection, .joined kind), word => some (selection, .relation kind word)
  | (selection, .relation kind table), word =>
    if word = "ON" then some (selection, .left kind table) else none
  | (selection, .left kind table), word => some (selection, .equality kind table word)
  | (selection, .equality kind table left), word =>
    if word = "=" then some (selection, .right kind table left) else none
  | (selection, .right kind table left), word =>
    some (selection.addJoins [(kind, table, left, word)], .joins)
  | (selection, .condition reading), word =>
    match reading.step word with
    | some (next, items) => some (selection.addItems items, .condition next)
    | none =>
      if reading = .finished then (bound? word).map fun expected => (selection, expected)
      else none
  | (selection, .bound bound), word =>
    (Number.natOfDigits? word.toList).map fun rows => (selection.withBound bound rows, .bounds)
  | (selection, .bounds), word => (bound? word).map fun expected => (selection, expected)

/-- What the text of a selection says. -/
def ofText? (text : String) : Option Selection :=
  ((words text).foldlM step (empty, .start)).map Prod.fst

end Selection

/-! ### The words of a selection -/

/-- A text that does not continue the word of the text before it. -/
def BeginsApart (text : String) : Prop :=
  ∀ c ∈ text.toList.head?, isSeparator c = true

/-- A text that begins apart shares no word with the text before it. -/
theorem words_append_of_beginsApart {second : String} (h : BeginsApart second) (first : String) :
  words (first ++ second) = words first ++ words second
  := by
  apply words_append
  intro c _ d hd
  apply continues_of_isSeparator_right (h d hd)

/-- A mark begins apart whatever follows it. -/
theorem beginsApart_mark {mark : String} (h : IsMark mark) (text : String) :
  BeginsApart (mark ++ text)
  := by
  intro c hc
  rw [String.toList_append, List.head?_append_of_ne_nil _ h.1] at hc
  apply h.2.1 c hc

theorem beginsApart_empty :
  BeginsApart ""
  := by
  intro c hc
  cases hc

/-- Joins begin apart, and so does their absence. -/
theorem beginsApart_joinTexts (joins : List Join) :
  BeginsApart (String.join (joins.map joinText))
  := by
  cases joins with
  | nil => apply beginsApart_empty
  | cons join rest =>
      simp only [List.map_cons, String.join_cons, joinText, String.append_assoc]
      apply beginsApart_mark (by decide)

/-- A filter begins apart, and so does its absence. -/
theorem beginsApart_whereText (predicates : List Predicate) :
  BeginsApart (whereText predicates)
  := by
  rw [whereText]
  split
  · apply beginsApart_empty
  · have hmark : IsMark " WHERE " := by decide
    apply beginsApart_mark hmark

theorem beginsApart_boundText (keyword : String) (bound : Option Nat) :
  BeginsApart (boundText keyword bound)
  := by
  cases bound with
  | none => apply beginsApart_empty
  | some rows =>
      rw [boundText, String.append_assoc, String.append_assoc]
      apply beginsApart_mark (by decide)

/-- The words of a selected column are its text and its label after `AS`. -/
theorem words_selectedText {column : ColumnRef} (h : column.IsPlain) :
  words (selectedText column)
    = column.text :: column.label.toList.flatMap fun label => ["AS", label]
  := by
  have hword := isWord_columnText h
  rw [selectedText]
  split
  · rename_i label hlabel
    have hmark : words " AS " = ["AS"] := rfl
    rw [words_append_mark_append (by decide), words_of_isWord hword, hmark,
      words_of_isWord (isWord_of_isName (h.label label hlabel)), hlabel]
    rfl
  · rename_i hlabel
    rw [words_of_isWord hword, hlabel]
    rfl

/-- The words of a join are its kind, its table and the two columns that are compared. -/
theorem words_joinText {join : Join} (h : join.IsPlain) :
  words (joinText join)
    = words join.kind.sql ++ [join.table, "ON", join.left.text, "=", join.right.text]
  := by
  have hblank : words " " = [] := rfl
  have hon : words " ON " = ["ON"] := rfl
  have hequal : words " = " = ["="] := rfl
  rw [joinText, words_append_mark_append (by decide), words_append_mark_append (by decide),
    words_append_mark_append (by decide), words_mark_append (by decide), hblank, hon, hequal,
    words_of_isWord (isWord_of_isName h.table),
    words_of_isWord (isWord_columnText h.left.toIsPlain),
    words_of_isWord (isWord_columnText h.right.toIsPlain)]
  simp

theorem words_joinTexts (joins : List Join) :
  words (String.join (joins.map joinText)) = joins.flatMap fun join => words (joinText join)
  := by
  induction joins with
  | nil => rfl
  | cons join rest ih =>
      rw [List.map_cons, String.join_cons,
        words_append_of_beginsApart (beginsApart_joinTexts rest), ih, List.flatMap_cons]

/-- The words of a filter are `WHERE` and those of the condition. -/
theorem words_whereText {predicates : List Predicate} (h : predicates ≠ []) :
  words (whereText predicates) = "WHERE" :: words (conjunction predicates)
  := by
  have hmark : IsMark " WHERE " := by decide
  have hwhere : words " WHERE " = ["WHERE"] := rfl
  rw [whereText, if_neg (by rwa [List.isEmpty_iff]), words_mark_append hmark, hwhere]
  rfl

/-- The words of a bound are its keyword and its number. -/
theorem words_boundText {keyword : String} (h : IsWord keyword) (rows : Nat) :
  words (boundText keyword (some rows)) = [keyword, Number.natText rows]
  := by
  have hblank : words " " = [] := rfl
  rw [boundText, words_append_mark_append (by decide), words_mark_append (by decide), hblank,
    words_of_isWord h, words_of_isWord (isWord_natText rows)]
  rfl

/-- The words of a selection are those of its parts, one part after the other. -/
theorem words_select
    {table : String} (htable : IsName table) (columns : List ColumnRef) (joins : List Join)
    (predicates : List Predicate) (limit offset : Option Nat) :
  words (Command.select columns table joins predicates limit offset).text
    = ["SELECT"] ++ (words (projectionText columns) ++ ["FROM"]) ++ [table]
      ++ (joins.flatMap fun join => words (joinText join)) ++ words (whereText predicates)
      ++ words (boundText "LIMIT" limit) ++ words (boundText "OFFSET" offset)
  := by
  have hselect : "SELECT " = "SELECT" ++ " " := rfl
  have hkeyword : words "SELECT" = ["SELECT"] := rfl
  have hblank : words " " = [] := rfl
  have hfrom : words " FROM " = ["FROM"] := rfl
  rw [Command.text_select, words_append_of_beginsApart (beginsApart_boundText _ _),
    words_append_of_beginsApart (beginsApart_boundText _ _),
    words_append_of_beginsApart (beginsApart_whereText predicates),
    words_append_of_beginsApart (beginsApart_joinTexts joins),
    words_append_mark_append (by decide), hselect, words_append_mark_append (by decide),
    hkeyword, hblank, hfrom, words_of_isWord (isWord_of_isName htable), words_joinTexts,
    List.append_nil, List.append_assoc ["SELECT"]]

namespace Selection

/-! ### Reading the parts of a selection -/

/-- A column is read up to the word after it. -/
theorem run_selectedText
    {column : ColumnRef} (h : column.IsPlain) (selection : Selection) (word : String)
    (next : Expected) (hword : word = "," ∧ next = .columns ∨ word = "FROM" ∧ next = .table) :
  (words (selectedText column) ++ [word]).foldlM step (selection, .columns)
    = some (selection.addColumns [(column.text, column.label)], next)
  := by
  have hstar : column.text ≠ "*" := by
    intro heq
    have hplain := isWord_columnText h
    rw [heq] at hplain
    revert hplain
    decide
  have hfirst : [column.text].foldlM step (selection, .columns)
      = some (selection, .afterColumn column.text) := by
    simp [step, hstar]
  rw [words_selectedText h]
  cases column.label with
  | none =>
      rcases hword with ⟨rfl, rfl⟩ | ⟨rfl, rfl⟩
      · apply foldlM_append_eq_some hfirst rfl
      · apply foldlM_append_eq_some hfirst rfl
  | some label =>
      rcases hword with ⟨rfl, rfl⟩ | ⟨rfl, rfl⟩
      · apply foldlM_append_eq_some hfirst rfl
      · apply foldlM_append_eq_some hfirst rfl

/-- One join is read after the others, and further ones may follow. -/
theorem run_join {join : Join} (h : join.IsPlain) (selection : Selection) :
  (words (joinText join)).foldlM step (selection, .joins)
    = some (selection.addJoins [(join.kind, join.table, join.left.text, join.right.text)], .joins)
  := by
  rw [words_joinText h]
  cases join.kind <;> rfl

/-- The columns of a selection are read up to the keyword after them. -/
theorem run_projectionText
    {columns : List ColumnRef} (h : ∀ column ∈ columns, column.IsPlain) (selection : Selection) :
  (words (projectionText columns) ++ ["FROM"]).foldlM step (selection, .columns)
    = some (selection.addColumns (columns.map fun column => (column.text, column.label)), .table)
  := by
  cases columns with
  | nil =>
      rw [List.map_nil, addColumns_nil]
      rfl
  | cons first rest =>
      rw [projectionText, if_neg (by simp), words_intercalate (by decide)]
      induction rest generalizing first selection with
      | nil =>
          rw [List.forall_mem_singleton] at h
          simp only [List.map_cons, List.map_nil, List.intercalate_singleton]
          apply run_selectedText h selection "FROM" .table (.inr ⟨rfl, rfl⟩)
      | cons second rest ih =>
          rw [List.forall_mem_cons] at h
          have hcomma : words ", " = [","] := rfl
          have hfirst := run_selectedText h.1 selection "," .columns (.inl ⟨rfl, rfl⟩)
          have hrest := ih (selection.addColumns [(first.text, first.label)]) second h.2
          simp only [List.map_cons, List.intercalate_cons_cons, hcomma, List.append_assoc]
            at hrest ⊢
          rw [← List.append_assoc (words (selectedText first))]
          have hrun := foldlM_append_eq_some hfirst hrest
          rw [addColumns_addColumns, List.singleton_append] at hrun
          apply hrun

/-- All joins are read in order. -/
theorem run_joinTexts
    {joins : List Join} (h : ∀ join ∈ joins, join.IsPlain) (selection : Selection) :
  (joins.flatMap fun join => words (joinText join)).foldlM step (selection, .joins)
    = some (selection.addJoins (joins.map fun join =>
        (join.kind, join.table, join.left.text, join.right.text)), .joins)
  := by
  induction joins generalizing selection with
  | nil =>
      rw [List.map_nil, addJoins_nil]
      rfl
  | cons join rest ih =>
      rw [List.forall_mem_cons] at h
      have hrun := foldlM_append_eq_some (run_join h.1 selection) (ih h.2 _)
      rw [addJoins_addJoins] at hrun
      apply hrun

/-- A condition whose items are known is read to its end. -/
theorem run_of_items? {condition : String} {items : List Item} (h : items? condition = some items) :
  Reading.start.run (words condition) = some (.finished, items)
  := by
  rw [items?] at h
  split at h
  · rename_i hrun
    cases h
    apply hrun
  · cases h

/-- The words of a condition are read as parts of a condition. -/
theorem run_condition
    {reading next : Reading} {words : List String} {items : List Item}
    (h : reading.run words = some (next, items)) (selection : Selection) :
  words.foldlM step (selection, .condition reading)
    = some (selection.addItems items, .condition next)
  := by
  induction words generalizing reading items selection with
  | nil =>
      cases h
      rw [addItems_nil]
      rfl
  | cons word words ih =>
      simp only [Reading.run, Option.bind_eq_bind, Option.bind_eq_some_iff, Prod.exists] at h
      obtain ⟨middle, found, hstep, final, others, hrun, hpure⟩ := h
      cases hpure
      rw [List.foldlM_cons, step, hstep]
      simp only [Option.bind_eq_bind, Option.bind_some, ih hrun, addItems_addItems]

/-- The places in a selection where it may end or be bounded. -/
def MayEnd (expected : Expected) : Prop :=
  expected = .joins ∨ expected = .condition .finished ∨ expected = .bounds

/-- A filter is read as the items of its predicates with conjunctions between them, and the text may
end after it. -/
theorem run_whereText
    {predicates : List Predicate} (h : ∀ predicate ∈ predicates, predicate.IsPlain)
    (selection : Selection) :
  ∃ next, MayEnd next ∧ (words (whereText predicates)).foldlM step (selection, .joins)
    = some (selection.addItems
        ([Item.conjunction].intercalate (predicates.map Predicate.items)), next)
  := by
  cases predicates with
  | nil =>
      use .joins, .inl rfl
      rw [List.map_nil, List.intercalate_nil, addItems_nil]
      rfl
  | cons first rest =>
      use .condition .finished, .inr (.inl rfl)
      have hread := run_of_items? (items?_conjunction (List.cons_ne_nil first rest) h)
      rw [words_whereText (List.cons_ne_nil first rest), List.foldlM_cons]
      apply run_condition hread

theorem step_of_mayEnd
    {expected next : Expected} {word : String} (h : MayEnd expected)
    (hword : bound? word = some next) (selection : Selection) :
  step (selection, expected) word = some (selection, next)
  := by
  unfold bound? at hword
  split at hword
  · cases hword
    rcases h with rfl | rfl | rfl <;> rfl
  · cases hword
    rcases h with rfl | rfl | rfl <;> rfl
  · cases hword

/-- A bound is read where the text may end, and the text may end after it. -/
theorem run_boundText
    {expected : Expected} {keyword : String} {bound : RowBound} (h : MayEnd expected)
    (hkeyword : bound? keyword = some (.bound bound)) (hword : IsWord keyword)
    (rows : Option Nat) (selection : Selection) :
  ∃ next, MayEnd next ∧ (words (boundText keyword rows)).foldlM step (selection, expected)
    = some (rows.elim selection (selection.withBound bound), next)
  := by
  cases rows with
  | none =>
      use expected, h
      rfl
  | some rows =>
      have hrows : Number.natOfDigits? (Number.natText rows).toList = some rows := by
        rw [Number.natText, String.toList_ofList]
        apply Number.natOfDigits?_natDigits
      use .bounds, .inr (.inr rfl)
      rw [words_boundText hword, List.foldlM_cons, step_of_mayEnd h hkeyword]
      simp only [Option.bind_eq_bind, Option.bind_some, List.foldlM_cons, List.foldlM_nil, step,
        hrows, Option.map_some, Option.elim_some]
      rfl

/-! ### Reading a selection -/

/-- What the selection of a query says. -/
def ofQuery (query : Query) : Selection where
  columns := query.columns.map fun column => (column.text, column.label)
  table := query.table
  joins := query.joins.map fun join => (join.kind, join.table, join.left.text, join.right.text)
  items := [Item.conjunction].intercalate
    ((Statement.predicates 1 query.conditions).map Predicate.items)
  limit := query.limit
  offset := query.offset

/-- The text of the selection of a query is read as what the selection says. -/
theorem ofText?_select {query : Query} (h : query.WellFormed) :
  ofText? (Command.select query.columns query.table query.joins
      (Statement.predicates 1 query.conditions) query.limit query.offset).text
    = some (ofQuery query)
  := by
  have hstart : ["SELECT"].foldlM step (empty, .start) = some (empty, .columns) := rfl
  have hcolumns := foldlM_append_eq_some hstart (run_projectionText h.columns empty)
  have hname : ∀ selection : Selection, [query.table].foldlM step (selection, .table)
      = some (selection.withTable query.table, .joins) := fun _ => rfl
  have htable := foldlM_append_eq_some hcolumns (hname _)
  have hjoins := foldlM_append_eq_some htable (run_joinTexts h.joins _)
  obtain ⟨_, hend, hrun⟩ := run_whereText (Statement.isPlain_predicates h.conditions) _
  have hwhere := foldlM_append_eq_some hjoins hrun
  have hkeyword : bound? "LIMIT" = some (.bound .limit) := rfl
  obtain ⟨_, hend, hrun⟩ := run_boundText hend hkeyword (by decide) query.limit _
  have hlimit := foldlM_append_eq_some hwhere hrun
  have hkeyword : bound? "OFFSET" = some (.bound .offset) := rfl
  obtain ⟨_, -, hrun⟩ := run_boundText hend hkeyword (by decide) query.offset _
  have hoffset := foldlM_append_eq_some hlimit hrun
  rw [ofText?, words_select h.table, hoffset, ofQuery]
  cases query.limit <;> cases query.offset <;> rfl

end Selection

end TableGateway.Sql
