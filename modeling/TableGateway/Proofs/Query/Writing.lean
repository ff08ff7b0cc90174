import TableGateway.Proofs.Query.Clause
import TableGateway.Proofs.Query.Token
import TableGateway.Proofs.Text.Joining
import TableGateway.Proofs.Text.Spelling

/-!
# Written queries

A query is written as the path `/table?` and clauses that are joined by `&`: one for its
conditions, one for its columns, one for each of its joins, in order, and one for each bound
of rows, in so far as the query has them. Names and values may be spelled in any way, an
operator may be written as any of its tokens, and a clause under any of its keywords.

What stands between two separators of one kind is written without them, so that separators
are found again where they were put.
-/

namespace TableGateway

open Text

/-! ### Names and columns -/

/-- A text that writes a column, without the name it is returned under. -/
def ColumnRef.WrittenAs (column : ColumnRef) (text : List Char) : Prop :=
  match column.qualifier with
  | none => Spells text column.name
  | some table => ∃ qualifier name,
    text = qualifier ++ '.' :: name ∧ Spells qualifier table ∧ Spells name column.name

/-- A text that writes a column to return. -/
def ColumnRef.SelectedAs (column : ColumnRef) (text : List Char) : Prop :=
  match column.label with
  | none => column.WrittenAs text
  | some label => ∃ reference name,
    text = reference ++ ':' :: name ∧ column.WrittenAs reference ∧ Spells name label

/-! ### Conditions and joins -/

/-- A text that writes a condition. -/
def Condition.WrittenAs (condition : Condition) (text : List Char) : Prop :=
  ∃ column token values, text = column ++ String.toList token ++ [','].intercalate values
    ∧ condition.column.WrittenAs column
    ∧ (token, condition.operator) ∈ OperatorTable.standard.entries
    ∧ List.Forall₂ Spells values condition.values

/-- A text that writes a join, without its kind. -/
def Join.WrittenAs (join : Join) (text : List Char) : Prop :=
  ∃ table left right, text = table ++ ':' :: (left ++ ['=', '='] ++ right)
    ∧ Spells table join.table ∧ join.left.WrittenAs left ∧ join.right.WrittenAs right

/-! ### Clauses -/

namespace Query

/-- A text that writes a clause. -/
inductive Clause.WrittenAs : Clause → List Char → Prop
  | filter {keyword : String} {conditions : List Condition} {texts : List (List Char)}
      (hkeyword : keyword = "where" ∨ keyword = "filter") (hne : conditions ≠ [])
      (h : List.Forall₂ Condition.WrittenAs conditions texts) :
      WrittenAs (.filter conditions) (keyword.toList ++ '=' :: [';'].intercalate texts)
  | select {keyword : String} {columns : List ColumnRef} {texts : List (List Char)}
      (hkeyword : keyword = "select" ∨ keyword = "fields") (hne : columns ≠ [])
      (h : List.Forall₂ ColumnRef.SelectedAs columns texts) :
      WrittenAs (.select columns) (keyword.toList ++ '=' :: [','].intercalate texts)
  | join {join : Join} {text : List Char} (h : join.WrittenAs text) :
      WrittenAs (.join [join]) (join.kind.keyword.toList ++ '=' :: text)
  | limit {rows : Nat} :
      WrittenAs (.limit rows) ("limit".toList ++ '=' :: Number.natDigits rows)
  | offset {rows : Nat} :
      WrittenAs (.offset rows) ("offset".toList ++ '=' :: Number.natDigits rows)

/-- A path that writes a query. -/
def WrittenAs (query : Query) (path : String) : Prop :=
  ∃ clauses texts, query.HasClauses clauses ∧ List.Forall₂ Clause.WrittenAs clauses texts
    ∧ path.toList = '/' :: query.table.toList ++ '?' :: ['&'].intercalate texts

/-- A query that can be written. A single empty value could not be told from none, and bounds
are numbers of sixty-four bits. -/
structure Writable (query : Query) : Prop extends query.WellFormed where
  values : ∀ condition ∈ query.conditions, condition.values ≠ [""]
  limit : ∀ rows ∈ query.limit, rows < 2 ^ 64
  offset : ∀ rows ∈ query.offset, rows < 2 ^ 64

end Query

/-! ### Every query is written by a path -/

/-- Every column can be written. -/
theorem ColumnRef.exists_writtenAs (column : ColumnRef) :
  ∃ text, column.WrittenAs text
  := by
  obtain ⟨name, hname⟩ := exists_spells column.name
  simp only [WrittenAs]
  split
  · use name
  · rename_i table _
    obtain ⟨qualifier, hqualifier⟩ := exists_spells table
    use qualifier ++ '.' :: name, qualifier, name

theorem ColumnRef.exists_selectedAs (column : ColumnRef) :
  ∃ text, column.SelectedAs text
  := by
  obtain ⟨reference, hreference⟩ := column.exists_writtenAs
  simp only [SelectedAs]
  split
  · use reference
  · rename_i label _
    obtain ⟨name, hname⟩ := exists_spells label
    use reference ++ ':' :: name, reference, name

theorem OperatorTable.exists_mem_entries_standard (operator : Operator) :
  ∃ token, (token, operator) ∈ standard.entries
  := by
  rw [entries_standard]
  cases operator <;> simp

/-- Every condition can be written. -/
theorem Condition.exists_writtenAs (condition : Condition) :
  ∃ text, condition.WrittenAs text
  := by
  obtain ⟨column, hcolumn⟩ := condition.column.exists_writtenAs
  obtain ⟨token, htoken⟩ := OperatorTable.exists_mem_entries_standard condition.operator
  have hspelled : ∀ value ∈ condition.values, ∃ text, Spells text value :=
    fun value _ => exists_spells value
  obtain ⟨values, hvalues⟩ := Outcome.exists_forall₂_iff.mpr hspelled
  use column ++ token.toList ++ [','].intercalate values, column, token, values, rfl, hcolumn,
    htoken, hvalues.flip

/-- Every join can be written. -/
theorem Join.exists_writtenAs (join : Join) :
  ∃ text, join.WrittenAs text
  := by
  obtain ⟨table, htable⟩ := exists_spells join.table
  obtain ⟨left, hleft⟩ := join.left.exists_writtenAs
  obtain ⟨right, hright⟩ := join.right.exists_writtenAs
  use table ++ ':' :: (left ++ ['=', '='] ++ right), table, left, right

namespace Query

theorem exists_clause_writtenAs (query : Query) :
  ∀ clause ∈ query.clauses, ∃ text, clause.WrittenAs text
  := by
  intro clause hclause
  simp only [clauses, List.mem_append, List.mem_map, List.mem_ite_nil_left, List.mem_singleton,
    Option.mem_toList] at hclause
  rcases hclause with
    (((⟨hne, rfl⟩ | ⟨hne, rfl⟩) | ⟨join, -, rfl⟩) | ⟨rows, -, rfl⟩) | ⟨rows, -, rfl⟩
  · have hwritten : ∀ condition ∈ query.conditions, ∃ text, condition.WrittenAs text :=
      fun condition _ => condition.exists_writtenAs
    obtain ⟨texts, htexts⟩ := Outcome.exists_forall₂_iff.mpr hwritten
    use "where".toList ++ '=' :: [';'].intercalate texts
    apply Clause.WrittenAs.filter (.inl rfl) hne htexts
  · have hwritten : ∀ column ∈ query.columns, ∃ text, column.SelectedAs text :=
      fun column _ => column.exists_selectedAs
    obtain ⟨texts, htexts⟩ := Outcome.exists_forall₂_iff.mpr hwritten
    use "select".toList ++ '=' :: [','].intercalate texts
    apply Clause.WrittenAs.select (.inl rfl) hne htexts
  · obtain ⟨text, htext⟩ := join.exists_writtenAs
    use join.kind.keyword.toList ++ '=' :: text
    apply Clause.WrittenAs.join htext
  · use "limit".toList ++ '=' :: Number.natDigits rows
    apply Clause.WrittenAs.limit
  · use "offset".toList ++ '=' :: Number.natDigits rows
    apply Clause.WrittenAs.offset

/-- Every query is written by some path. -/
theorem exists_writtenAs (query : Query) :
  ∃ path, query.WrittenAs path
  := by
  obtain ⟨texts, htexts⟩ := Outcome.exists_forall₂_iff.mpr query.exists_clause_writtenAs
  use String.ofList ('/' :: query.table.toList ++ '?' :: ['&'].intercalate texts), query.clauses,
    texts, query.hasClauses_clauses, htexts, String.toList_ofList

end Query

/-! ### Separators -/

/-- The characters of written columns. -/
def isColumnChar (c : Char) : Bool :=
  isSpellingChar c || c == '.'

/-- The characters of written values. -/
def isValueChar (c : Char) : Bool :=
  isSpellingChar c || c == ','

theorem ColumnRef.WrittenAs.isColumnChar_of_mem
    {column : ColumnRef} {text : List Char} (h : column.WrittenAs text) :
  ∀ c ∈ text, isColumnChar c = true
  := by
  have hspelling : ∀ {text : List Char} {value : String}, Spells text value →
      ∀ c ∈ text, isColumnChar c = true := by
    intro text value hvalue c hc
    rw [isColumnChar, isSpellingChar_of_mem hvalue hc, Bool.true_or]
  rw [WrittenAs] at h
  split at h
  · apply hspelling h
  · obtain ⟨qualifier, name, rfl, hqualifier, hname⟩ := h
    rw [List.forall_mem_append, List.forall_mem_cons]
    use hspelling hqualifier, rfl, hspelling hname

/-- A column is written without the characters that separate. -/
theorem ColumnRef.WrittenAs.not_mem
    {column : ColumnRef} {text : List Char} (h : column.WrittenAs text)
    {c : Char} (hc : isColumnChar c = false) :
  c ∉ text
  := by
  intro hmem
  rw [h.isColumnChar_of_mem c hmem] at hc
  cases hc

/-- A selected column is written without the characters that separate, but for the colon before its
label. -/
theorem ColumnRef.SelectedAs.not_mem
    {column : ColumnRef} {text : List Char} (h : column.SelectedAs text)
    {c : Char} (hc : isColumnChar c = false) (hlabel : c ≠ ':') :
  c ∉ text
  := by
  rw [SelectedAs] at h
  split at h
  · apply h.not_mem hc
  · obtain ⟨reference, name, rfl, hreference, hname⟩ := h
    rw [List.mem_append, List.mem_cons, not_or, not_or]
    rw [isColumnChar, Bool.or_eq_false_iff] at hc
    use hreference.not_mem (by rw [isColumnChar, hc.1, hc.2]; rfl), hlabel
    apply not_mem_of_spells hname hc.1

/-- A join is written without the characters that separate, but for those between its columns. -/
theorem Join.WrittenAs.not_mem
    {join : Join} {text : List Char} (h : join.WrittenAs text)
    {c : Char} (hc : isColumnChar c = false) (hon : c ≠ ':') (hequal : c ≠ '=') :
  c ∉ text
  := by
  obtain ⟨table, left, right, rfl, htable, hleft, hright⟩ := h
  simp only [List.mem_append, List.mem_cons, List.not_mem_nil, or_false, not_or]
  have hspelling : isSpellingChar c = false := by
    rw [isColumnChar, Bool.or_eq_false_iff] at hc
    apply hc.1
  use not_mem_of_spells htable hspelling, hon, ⟨hleft.not_mem hc, hequal, hequal⟩
  apply hright.not_mem hc

/-- Values are written with the characters of values and commas. -/
theorem isValueChar_of_forall₂_spells
    {texts : List (List Char)} {values : List String} (h : List.Forall₂ Spells texts values) :
  ∀ c ∈ [','].intercalate texts, isValueChar c = true
  := by
  intro c hmem
  by_contra hc
  rw [Bool.not_eq_true, isValueChar, Bool.or_eq_false_iff, beq_eq_false_iff_ne] at hc
  apply not_mem_intercalate hc.2 _ hmem
  apply not_mem_of_forall₂ (fun _ _ hvalue => not_mem_of_spells hvalue hc.1) h.flip

/-- A condition is written without separators of conditions and of clauses. -/
theorem Condition.WrittenAs.not_mem
    {condition : Condition} {text : List Char} (h : condition.WrittenAs text)
    {c : Char} (hc : c = ';' ∨ c = '&') :
  c ∉ text
  := by
  obtain ⟨column, token, values, rfl, hcolumn, htoken, hvalues⟩ := h
  have htokens : ∀ entry ∈ OperatorTable.standard.entries,
      ';' ∉ entry.1.toList ∧ '&' ∉ entry.1.toList := by
    rw [OperatorTable.entries_standard]
    decide
  have hvalue : ∀ c, isValueChar c = false → c ∉ [','].intercalate values := by
    intro c hc hmem
    rw [isValueChar_of_forall₂_spells hvalues c hmem] at hc
    cases hc
  rw [List.mem_append, List.mem_append, not_or, not_or]
  rcases hc with rfl | rfl
  · use ⟨hcolumn.not_mem rfl, (htokens _ htoken).1⟩, hvalue ';' rfl
  · use ⟨hcolumn.not_mem rfl, (htokens _ htoken).2⟩, hvalue '&' rfl

/-- A clause is written without separators of clauses. -/
theorem Query.Clause.WrittenAs.not_mem
    {clause : Query.Clause} {text : List Char} (h : clause.WrittenAs text) :
  '&' ∉ text
  := by
  have happend : ∀ {keyword : String} {value : List Char},
      '&' ∉ keyword.toList → '&' ∉ value → '&' ∉ keyword.toList ++ '=' :: value := by
    intro keyword value hkeyword hvalue
    rw [List.mem_append, List.mem_cons, not_or, not_or]
    use hkeyword, by decide
  cases h with
  | filter hkeyword hne h =>
      apply happend
      · rcases hkeyword with rfl | rfl <;> decide
      · apply not_mem_intercalate (by decide)
        apply not_mem_of_forall₂ (fun _ _ htext => htext.not_mem (.inr rfl)) h
  | select hkeyword hne h =>
      apply happend
      · rcases hkeyword with rfl | rfl <;> decide
      · apply not_mem_intercalate (by decide)
        apply not_mem_of_forall₂ (fun _ _ htext => htext.not_mem rfl (by decide)) h
  | @join join text h =>
      apply happend
      · cases join.kind <;> decide
      · apply h.not_mem rfl (by decide) (by decide)
  | limit =>
      apply happend (by decide)
      intro h
      cases Number.isDigit_of_mem_natDigits h
  | offset =>
      apply happend (by decide)
      intro h
      cases Number.isDigit_of_mem_natDigits h

/-- No clause is written as nothing. -/
theorem Query.Clause.WrittenAs.ne_nil
    {clause : Query.Clause} {text : List Char} (h : clause.WrittenAs text) :
  text ≠ []
  := by
  cases h <;> simp

end TableGateway
