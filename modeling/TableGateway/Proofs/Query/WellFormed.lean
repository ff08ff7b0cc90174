import TableGateway.Proofs.NameOrder
import TableGateway.Proofs.Outcome
import TableGateway.Query.Parser

/-!
# Well-formed queries

Every query that is read from a path is well-formed: all its names are identifiers, only
the columns to return have labels, the columns of a join are qualified, and its tables
are the primary table and the joined tables in order of first appearance.

Each part of a clause is read into a well-formed part, a clause keeps a query
well-formed, and so the clauses of a path make a well-formed query, whatever the table of
operators.
-/

namespace TableGateway

open Outcome

/-! ### Well-formed parts -/

/-- A name that is an identifier. -/
def IsName (name : String) : Prop :=
  Text.isIdentifier name.toList = true

theorem isName_ofList {text : List Char} (h : Text.isIdentifier text = true) :
  IsName (String.ofList text)
  := by
  rw [IsName, String.toList_ofList]
  apply h

/-- A name has a character. -/
theorem IsName.ne_nil {name : String} (h : IsName name) :
  name.toList ≠ []
  := (Text.isIdentifier_iff.mp h).1

theorem IsName.isIdentifierChar {name : String} (h : IsName name) :
  ∀ c ∈ name.toList, Text.isIdentifierChar c = true
  := (Text.isIdentifier_iff.mp h).2

/-- A reference all of whose names are identifiers. -/
structure ColumnRef.IsPlain (column : ColumnRef) : Prop where
  qualifier : ∀ qualifier ∈ column.qualifier, IsName qualifier
  name : IsName column.name
  label : ∀ label ∈ column.label, IsName label

/-- A condition on a column that has no label. -/
structure Condition.IsPlain (condition : Condition) : Prop where
  column : condition.column.IsPlain
  label : condition.column.label = none

/-- A column of a join: qualified, and without a label. -/
structure ColumnRef.IsJoined (column : ColumnRef) : Prop extends column.IsPlain where
  qualified : column.qualifier.isSome = true
  unlabelled : column.label = none

/-- A join with a named table on two columns of joins. -/
structure Join.IsPlain (join : Join) : Prop where
  table : IsName join.table
  left : join.left.IsJoined
  right : join.right.IsJoined

/-- A clause all of whose parts are well-formed. -/
def Query.Clause.IsPlain : Query.Clause → Prop
  | .filter conditions => ∀ condition ∈ conditions, condition.IsPlain
  | .select columns => ∀ column ∈ columns, column.IsPlain
  | .join joins => ∀ join ∈ joins, join.IsPlain
  | .limit _ | .offset _ => True

/-- A query all of whose parts are well-formed, and whose tables are the primary table
and the joined tables in order of first appearance. -/
structure Query.WellFormed (query : Query) : Prop where
  table : IsName query.table
  tables : query.tables = (query.table :: query.joins.map Join.table).eraseDups
  columns : ∀ column ∈ query.columns, column.IsPlain
  conditions : ∀ condition ∈ query.conditions, condition.IsPlain
  joins : ∀ join ∈ query.joins, join.IsPlain

/-! ### Deciding whether parts are well-formed -/

instance (name : String) : Decidable (IsName name) :=
  inferInstanceAs (Decidable (Text.isIdentifier name.toList = true))

instance (column : ColumnRef) : Decidable column.IsPlain :=
  decidable_of_iff ((∀ qualifier ∈ column.qualifier, IsName qualifier) ∧ IsName column.name
    ∧ ∀ label ∈ column.label, IsName label)
    ⟨fun h => ⟨h.1, h.2.1, h.2.2⟩, fun h => ⟨h.qualifier, h.name, h.label⟩⟩

instance (condition : Condition) : Decidable condition.IsPlain :=
  decidable_of_iff (condition.column.IsPlain ∧ condition.column.label = none)
    ⟨fun h => ⟨h.1, h.2⟩, fun h => ⟨h.column, h.label⟩⟩

instance (column : ColumnRef) : Decidable column.IsJoined :=
  decidable_of_iff (column.IsPlain ∧ column.qualifier.isSome = true ∧ column.label = none)
    ⟨fun h => ⟨h.1, h.2.1, h.2.2⟩, fun h => ⟨h.toIsPlain, h.qualified, h.unlabelled⟩⟩

instance (join : Join) : Decidable join.IsPlain :=
  decidable_of_iff (IsName join.table ∧ join.left.IsJoined ∧ join.right.IsJoined)
    ⟨fun h => ⟨h.1, h.2.1, h.2.2⟩, fun h => ⟨h.table, h.left, h.right⟩⟩

instance (query : Query) : Decidable query.WellFormed :=
  decidable_of_iff (IsName query.table
    ∧ query.tables = (query.table :: query.joins.map Join.table).eraseDups
    ∧ (∀ column ∈ query.columns, column.IsPlain)
    ∧ (∀ condition ∈ query.conditions, condition.IsPlain)
    ∧ ∀ join ∈ query.joins, join.IsPlain)
    ⟨fun h => ⟨h.1, h.2.1, h.2.2.1, h.2.2.2.1, h.2.2.2.2⟩,
      fun h => ⟨h.table, h.tables, h.columns, h.conditions, h.joins⟩⟩

/-! ### The tables of a query -/

/-- No two tables of a query have one name. -/
theorem Query.WellFormed.nodup_tables {query : Query} (h : query.WellFormed) :
  query.tables.Nodup
  := by
  rw [h.tables]
  apply nodup_eraseDups

/-- The tables of a query are its own and those of its joins. -/
theorem Query.WellFormed.mem_tables {query : Query} (h : query.WellFormed) {table : String} :
  table ∈ query.tables ↔ table = query.table ∨ ∃ join ∈ query.joins, join.table = table
  := by
  rw [h.tables, List.mem_eraseDups, List.mem_cons, List.mem_map]

/-- Without joins a query has just its primary table. -/
theorem Query.WellFormed.tables_of_joins_eq_nil
    {query : Query} (h : query.WellFormed) (hjoins : query.joins = []) :
  query.tables = [query.table]
  := by
  rw [h.tables, hjoins]
  simp [List.eraseDups_cons]

theorem Query.wellFormed_ofTable {table : String} (h : IsName table) :
  (ofTable table).WellFormed
  where
  table := h
  tables := by simp [ofTable, List.eraseDups_cons]
  columns := by simp [ofTable]
  conditions := by simp [ofTable]
  joins := by simp [ofTable]

/-- A join adds its table after the others, unless it is one of them. -/
theorem Query.WellFormed.addJoin
    {query : Query} {join : Join} (h : query.WellFormed) (hjoin : join.IsPlain) :
  (query.addJoin join).WellFormed
  where
  table := h.table
  columns := h.columns
  conditions := h.conditions
  joins := by
    simp only [Query.addJoin, List.mem_append, List.mem_singleton]
    rintro other (hother | rfl)
    · apply h.joins other hother
    · apply hjoin
  tables := by
    have hmem : join.table ∈ query.tables
        ↔ join.table ∈ query.table :: query.joins.map Join.table := by
      rw [h.tables, List.mem_eraseDups]
    simp only [Query.addJoin, includesTable, List.map_append, List.map_cons, List.map_nil]
    rw [← List.cons_append, eraseDups_append_singleton, ← h.tables]
    simp only [List.contains_iff_mem, hmem]

/-! ### Reading names -/

namespace Query

/-- A name that is read is an identifier, even if it was encoded. -/
theorem isName_of_parseName
    {spec part : List Char} {name : String} (h : parseName spec part = .ok name) :
  IsName name
  := by
  obtain ⟨text, -, h⟩ := bind_eq_ok_iff.mp h
  split at h
  · rename_i htext
    cases h
    apply isName_ofList htext
  · cases h

/-- A reference that is read has no label. -/
theorem isPlain_of_parseColumn
    {spec : List Char} {column : ColumnRef} (h : parseColumn spec = .ok column) :
  column.IsPlain ∧ column.label = none
  := by
  rw [parseColumn] at h
  split at h
  · obtain ⟨name, hname, h⟩ := bind_eq_ok_iff.mp h
    cases h
    constructor
    · constructor
      · simp
      · apply isName_of_parseName hname
      · simp
    · rfl
  · obtain ⟨qualifier, -, h⟩ := bind_eq_ok_iff.mp h
    obtain ⟨name, -, h⟩ := bind_eq_ok_iff.mp h
    split at h
    · rename_i hnames
      rw [Bool.and_eq_true] at hnames
      cases h
      constructor
      · constructor
        · simpa using isName_ofList hnames.1
        · apply isName_ofList hnames.2
        · simp
      · rfl
    · cases h
  · cases h

/-- A selected column that is read is plain, with its label. -/
theorem isPlain_of_parseSelected
    {spec : List Char} {column : ColumnRef} (h : parseSelected spec = .ok column) :
  column.IsPlain
  := by
  rw [parseSelected] at h
  split at h
  · apply (isPlain_of_parseColumn h).1
  · obtain ⟨found, hfound, h⟩ := bind_eq_ok_iff.mp h
    obtain ⟨label, hlabel, h⟩ := bind_eq_ok_iff.mp h
    obtain ⟨hplain, -⟩ := isPlain_of_parseColumn hfound
    cases h
    constructor
    · apply hplain.qualifier
    · apply hplain.name
    · simpa using isName_of_parseName hlabel

/-! ### Reading conditions and joins -/

/-- A condition is a column, a token and values, which a null test does not have. -/
theorem parseCondition_eq_ok_iff
    {operators : OperatorTable} {text : List Char} {condition : Condition} :
  parseCondition operators text = .ok condition
    ↔ text ≠ [] ∧ ∃ found, operators.find? text = some found
      ∧ found.after.isEmpty = found.operator.isNullTest
      ∧ ∃ column, parseColumn found.before = .ok column
      ∧ ∃ values, parseValues found.after = .ok values
      ∧ Condition.make column found.operator values = .ok condition
  := by
  rw [parseCondition, check_eq_ok_iff, List.isEmpty_iff]
  apply and_congr_right
  intro _
  cases operators.find? text with
  | none =>
      constructor
      · intro h
        cases h
      · rintro ⟨_, h, _⟩
        cases h
  | some found =>
      simp only [check_eq_ok_iff, bind_eq_ok_iff, Option.some.injEq, exists_eq_left']
      rw [← and_assoc]
      apply and_congr_left'
      cases found.after.isEmpty <;> cases found.operator.isNullTest <;> decide

/-- A condition is made of what it is given. -/
theorem Condition.eq_of_make
    {column : ColumnRef} {operator : Operator} {values : List String} {condition : Condition}
    (h : Condition.make column operator values = .ok condition) :
  condition.column = column ∧ condition.operator = operator ∧ condition.values = values
  := by
  rw [Condition.make] at h
  split at h
  · cases h
    use rfl, rfl
  · split at h <;> cases h

/-- A condition that is read has a plain column. -/
theorem isPlain_of_parseCondition
    {operators : OperatorTable} {text : List Char} {condition : Condition}
    (h : parseCondition operators text = .ok condition) :
  condition.IsPlain
  := by
  obtain ⟨-, _, -, -, column, hcolumn, _, -, hmake⟩ := parseCondition_eq_ok_iff.mp h
  obtain ⟨rfl, -, -⟩ := Condition.eq_of_make hmake
  apply Condition.IsPlain.mk
  · apply (isPlain_of_parseColumn hcolumn).1
  · apply (isPlain_of_parseColumn hcolumn).2

/-- A column of a join is read with its qualifier. -/
theorem isJoined_of_parseQualified
    {relation spec : List Char} {column : ColumnRef}
    (h : parseQualified relation spec = .ok column) :
  column.IsJoined
  := by
  rw [parseQualified] at h
  split at h
  · rename_i found hfound
    obtain ⟨hplain, hlabel⟩ := isPlain_of_parseColumn hfound
    split at h
    · rename_i hqualified
      cases h
      use hplain, hqualified, hlabel
    · cases h
  · cases h

/-- A join relation is a table and two columns around the first `==`. -/
theorem parseJoin_eq_ok_iff
    {kind : JoinKind} {relation : List Char} {join : Join} :
  parseJoin kind relation = .ok join
    ↔ ∃ part on, Text.cutAt? ':' relation = some (part, on)
      ∧ ∃ first second, Text.cutAtWord? ['=', '='] on = some (first, second)
      ∧ ∃ table, decode part = .ok table
      ∧ (Text.isIdentifier table = true ∧ Text.cutAtWord? ['=', '='] second = none)
      ∧ ∃ left, parseQualified relation first = .ok left
      ∧ ∃ right, parseQualified relation second = .ok right
      ∧ (⟨kind, String.ofList table, left, right⟩ : Join) = join
  := by
  rw [parseJoin]
  cases Text.cutAt? ':' relation with
  | none =>
      constructor
      · intro h
        cases h
      · rintro ⟨_, _, h, _⟩
        cases h
  | some parts =>
      obtain ⟨part, on⟩ := parts
      simp only [Option.some.injEq, Prod.mk.injEq, and_assoc, exists_and_left, exists_eq_left']
      cases Text.cutAtWord? ['=', '='] on with
      | none =>
          constructor
          · intro h
            cases h
          · rintro ⟨_, _, h, _⟩
            cases h
      | some sides =>
          obtain ⟨first, second⟩ := sides
          simp only [Option.some.injEq, Prod.mk.injEq, and_assoc, exists_and_left,
            exists_eq_left', bind_eq_ok_iff, check_eq_ok_iff, pure_eq_ok_iff, Bool.or_eq_true,
            Bool.not_eq_true', not_or, Bool.not_eq_false, Bool.not_eq_true,
            Option.isSome_eq_false_iff, Option.isNone_iff_eq_none]

/-- A join that is read is plain. -/
theorem isPlain_of_parseJoin
    {kind : JoinKind} {relation : List Char} {join : Join}
    (h : parseJoin kind relation = .ok join) :
  join.IsPlain
  := by
  obtain ⟨_, _, -, _, _, -, table, -, ⟨htable, -⟩, left, hleft, right, hright, rfl⟩ :=
    parseJoin_eq_ok_iff.mp h
  constructor
  · apply isName_ofList htable
  · apply isJoined_of_parseQualified hleft
  · apply isJoined_of_parseQualified hright

/-! ### Reading clauses -/

/-- The clauses that are read from a value under each keyword. -/
inductive ReadsValue (operators : OperatorTable) : String → List Char → Clause → Prop
  | filter {keyword : String} {value : List Char} {conditions : List Condition}
      (hkeyword : keyword = "where" ∨ keyword = "filter")
      (h : (value.splitOn ';').mapM (parseCondition operators) = .ok conditions) :
      ReadsValue operators keyword value (.filter conditions)
  | select {keyword : String} {value : List Char} {columns : List ColumnRef}
      (hkeyword : keyword = "select" ∨ keyword = "fields")
      (h : (value.splitOn ',').mapM parseSelected = .ok columns) :
      ReadsValue operators keyword value (.select columns)
  | join {kind : JoinKind} {value : List Char} {joins : List Join}
      (h : (value.splitOn ';').mapM (parseJoin kind) = .ok joins) :
      ReadsValue operators kind.keyword value (.join joins)
  | limit {value : List Char} {rows : Nat} (h : parseBound .limit value = .ok rows) :
      ReadsValue operators "limit" value (.limit rows)
  | offset {value : List Char} {rows : Nat} (h : parseBound .offset value = .ok rows) :
      ReadsValue operators "offset" value (.offset rows)

/-- A clause is read from the text after its keyword exactly as the keyword says. -/
theorem parseClauseValue_eq_ok_iff
    {operators : OperatorTable} {keyword : String} {value : List Char} {clause : Clause} :
  parseClauseValue operators keyword value = .ok clause
    ↔ ReadsValue operators keyword value clause
  := by
  constructor
  · intro h
    unfold parseClauseValue at h
    split at h
    · obtain ⟨conditions, hconditions, rfl⟩ := map_eq_ok_iff.mp h
      apply ReadsValue.filter (.inl rfl) hconditions
    · obtain ⟨conditions, hconditions, rfl⟩ := map_eq_ok_iff.mp h
      apply ReadsValue.filter (.inr rfl) hconditions
    · obtain ⟨columns, hcolumns, rfl⟩ := map_eq_ok_iff.mp h
      apply ReadsValue.select (.inl rfl) hcolumns
    · obtain ⟨columns, hcolumns, rfl⟩ := map_eq_ok_iff.mp h
      apply ReadsValue.select (.inr rfl) hcolumns
    · obtain ⟨rows, hrows, rfl⟩ := map_eq_ok_iff.mp h
      apply ReadsValue.limit hrows
    · obtain ⟨rows, hrows, rfl⟩ := map_eq_ok_iff.mp h
      apply ReadsValue.offset hrows
    · split at h
      · rename_i kind hkind
        obtain ⟨joins, hjoins, rfl⟩ := map_eq_ok_iff.mp h
        have hkeyword : kind.keyword = keyword := by
          simpa using List.find?_some hkind
        rw [← hkeyword]
        apply ReadsValue.join hjoins
      · cases h
  · intro h
    cases h with
    | @filter _ _ conditions hkeyword h =>
        rcases hkeyword with rfl | rfl <;> apply map_eq_ok_iff.mpr ⟨conditions, h, rfl⟩
    | @select _ _ columns hkeyword h =>
        rcases hkeyword with rfl | rfl <;> apply map_eq_ok_iff.mpr ⟨columns, h, rfl⟩
    | @join kind _ joins h => cases kind <;> apply map_eq_ok_iff.mpr ⟨joins, h, rfl⟩
    | @limit _ rows h => apply map_eq_ok_iff.mpr ⟨rows, h, rfl⟩
    | @offset _ rows h => apply map_eq_ok_iff.mpr ⟨rows, h, rfl⟩

/-- A clause is read from a text with an equality sign. -/
theorem parseClause_eq_ok_iff
    {operators : OperatorTable} {text : List Char} {clause : Clause} :
  parseClause operators text = .ok clause
    ↔ ∃ keyword value, Text.cutAt? '=' text = some (keyword, value)
      ∧ ReadsValue operators (String.ofList keyword) value clause
  := by
  rw [parseClause]
  cases Text.cutAt? '=' text with
  | none =>
      constructor
      · intro h
        cases h
      · rintro ⟨_, _, h, _⟩
        cases h
  | some parts =>
      simp only [parseClauseValue_eq_ok_iff, Option.some.injEq, Prod.ext_iff, and_assoc,
        exists_and_left, exists_eq_left']

theorem isPlain_of_readsValue
    {operators : OperatorTable} {keyword : String} {value : List Char} {clause : Clause}
    (h : ReadsValue operators keyword value clause) :
  clause.IsPlain
  := by
  cases h with
  | filter _ h => apply forall_mem_of_mapM (fun _ _ => isPlain_of_parseCondition) h
  | select _ h => apply forall_mem_of_mapM (fun _ _ => isPlain_of_parseSelected) h
  | join h => apply forall_mem_of_mapM (fun _ _ => isPlain_of_parseJoin) h
  | limit => trivial
  | offset => trivial

/-- A clause that is read is plain. -/
theorem isPlain_of_parseClause
    {operators : OperatorTable} {text : List Char} {clause : Clause}
    (h : parseClause operators text = .ok clause) :
  clause.IsPlain
  := by
  obtain ⟨_, _, -, hreads⟩ := parseClause_eq_ok_iff.mp h
  apply isPlain_of_readsValue hreads

/-- A well-formed clause keeps a query well-formed. -/
theorem WellFormed.apply {query : Query} {clause : Clause}
    (h : query.WellFormed) (hclause : clause.IsPlain) :
  (query.apply clause).WellFormed
  := by
  cases clause with
  | filter conditions => use h.table, h.tables, h.columns, hclause, h.joins
  | select columns => use h.table, h.tables, hclause, h.conditions, h.joins
  | limit rows => use h.table, h.tables, h.columns, h.conditions, h.joins
  | offset rows => use h.table, h.tables, h.columns, h.conditions, h.joins
  | join joins =>
      rw [Query.apply]
      induction joins generalizing query with
      | nil => apply h
      | cons join rest ih =>
          rw [List.foldl_cons]
          apply ih
          · apply h.addJoin (hclause join List.mem_cons_self)
          · intro other hother
            apply hclause other (List.mem_cons_of_mem join hother)

/-- A query that is read about a name is well formed. -/
theorem wellFormed_of_parse
    {operators : OperatorTable} {table text : String} {query : Query}
    (htable : IsName table) (h : parse operators table text = .ok query) :
  query.WellFormed
  := by
  apply foldlM_induction _ (wellFormed_ofTable htable) h
  intro query text query' hquery h
  obtain ⟨clause, hclause, rfl⟩ := map_eq_ok_iff.mp h
  apply hquery.apply (isPlain_of_parseClause hclause)

/-- The name of the table in a path is an identifier. -/
theorem isIdentifier_of_tableOfPath?
    {path name : List Char} (h : tableOfPath? path = some name) :
  Text.isIdentifier name = true
  := by
  unfold tableOfPath? at h
  split at h
  · obtain ⟨hname, heq⟩ := Option.ite_none_right_eq_some.mp h
    cases heq
    apply hname
  · cases h

/-- Whatever the table of operators, a query that is read from a path is well-formed. -/
theorem wellFormed_of_parsePath
    {operators : OperatorTable} {path : String} {query : Query}
    (h : parsePath operators path = .ok query) :
  query.WellFormed
  := by
  rw [parsePath] at h
  split at h
  split at h
  · rename_i table htable
    apply wellFormed_of_parse _ h
    apply isName_ofList (isIdentifier_of_tableOfPath? htable)
  · cases h

end Query

end TableGateway
