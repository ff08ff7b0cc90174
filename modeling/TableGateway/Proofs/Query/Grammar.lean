import TableGateway.Proofs.Query.Composition
import TableGateway.Proofs.Query.RoundTrip

/-!
# The grammar of requests

A request is a path `/table` or `/table/`, and after a question mark clauses that are joined by
`&`, some of which may be empty. The grammar says what the texts of clauses are made of, from
their parts: where a text is made of parts of one kind, none of them has the separator that
joins them, and names are percent-encoded identifiers. Each reader accepts just the texts of
its part of the grammar, and so a path is read exactly when it is a text of the grammar.
-/

namespace TableGateway.Query

open Outcome Text

/-! ### Names and columns -/

/-- A percent-encoded identifier. -/
def IsNameText (text : List Char) : Prop :=
  ∃ name, IsName name ∧ Encodes text name

/-- A column that is qualified by a table. -/
def IsQualifiedText (text : List Char) : Prop :=
  ∃ qualifier name, text = qualifier ++ '.' :: name ∧ IsNameText qualifier ∧ IsNameText name

def IsColumnText (text : List Char) : Prop :=
  IsNameText text ∨ IsQualifiedText text

/-- A column to return, with at most one label. -/
def IsSelectedText (text : List Char) : Prop :=
  IsColumnText text
    ∨ ∃ column label, text = column ++ ':' :: label ∧ IsColumnText column ∧ IsNameText label

/-! ### Conditions and joins -/

/-- A percent-encoded text. -/
def IsValueText (text : List Char) : Prop :=
  ∃ value, Encodes text value

/-- A column, the first token of the text, and values unless the token is of a null test. -/
def IsConditionText (operators : OperatorTable) (text : List Char) : Prop :=
  ∃ found, operators.Finds text found ∧ IsColumnText found.before
    ∧ if found.operator.isNullTest then found.after = []
      else found.after ≠ [] ∧ Separated ',' IsValueText found.after

/-- A table and a relation of two qualified columns. -/
def IsJoinText (text : List Char) : Prop :=
  ∃ table left right, text = table ++ ':' :: (left ++ ['=', '='] ++ right)
    ∧ IsNameText table ∧ IsQualifiedText left ∧ IsQualifiedText right

/-! ### Clauses and paths -/

/-- The digits of a number of sixty-four bits, with an optional plus before them. -/
def IsBoundText (text : List Char) : Prop :=
  ∃ digits, (text = digits ∨ text = '+' :: digits) ∧ digits ≠ []
    ∧ (∀ c ∈ digits, c.isDigit = true) ∧ Nat.ofDigitChars 10 digits 0 < 2 ^ 64

/-- A keyword and a value of its kind. -/
inductive IsClauseText (operators : OperatorTable) : List Char → Prop
  | filter {keyword : String} {value : List Char}
      (hkeyword : keyword = "where" ∨ keyword = "filter")
      (h : Separated ';' (IsConditionText operators) value) :
      IsClauseText operators (keyword.toList ++ '=' :: value)
  | select {keyword : String} {value : List Char}
      (hkeyword : keyword = "select" ∨ keyword = "fields")
      (h : Separated ',' IsSelectedText value) :
      IsClauseText operators (keyword.toList ++ '=' :: value)
  | join {kind : JoinKind} {value : List Char} (h : Separated ';' IsJoinText value) :
      IsClauseText operators (kind.keyword.toList ++ '=' :: value)
  | bound {keyword : String} {value : List Char}
      (hkeyword : keyword = "limit" ∨ keyword = "offset") (h : IsBoundText value) :
      IsClauseText operators (keyword.toList ++ '=' :: value)

/-- Clauses, some of which may be empty. -/
def IsQueryText (operators : OperatorTable) (text : List Char) : Prop :=
  Separated '&' (fun clause => clause = [] ∨ IsClauseText operators clause) text

/-- A table between slashes, of which the second one may be missing. -/
def IsResourceText (text : List Char) : Prop :=
  ∃ name, isIdentifier name = true ∧ (text = '/' :: name ∨ text = '/' :: (name ++ ['/']))

def IsPathText (operators : OperatorTable) (text : List Char) : Prop :=
  IsResourceText text
    ∨ ∃ resource query, text = resource ++ '?' :: query
      ∧ IsResourceText resource ∧ IsQueryText operators query

/-! ### Reading names and columns -/

/-- A text of a name spells an identifier. -/
theorem IsNameText.exists_spells {text : List Char} (h : IsNameText text) :
  ∃ name, IsName name ∧ Spells text name
  := by
  obtain ⟨name, hname, hencodes⟩ := h
  use name, hname, spells_of_encodes hencodes hname.isIdentifierChar

/-- A text of a qualified column writes a column of a join. -/
theorem IsQualifiedText.exists_writtenAs {text : List Char} (h : IsQualifiedText text) :
  ∃ column : ColumnRef, column.IsJoined ∧ column.WrittenAs text
  := by
  obtain ⟨first, second, rfl, hfirst, hsecond⟩ := h
  obtain ⟨qualifier, hqualifier, hqualifierSpells⟩ := hfirst.exists_spells
  obtain ⟨name, hname, hnameSpells⟩ := hsecond.exists_spells
  use ⟨some qualifier, name, none⟩
  constructor
  · constructor
    · constructor
      · simpa using hqualifier
      · apply hname
      · simp
    · rfl
    · rfl
  · use first, second, rfl

/-- A text of a column writes a plain one. -/
theorem IsColumnText.exists_writtenAs {text : List Char} (h : IsColumnText text) :
  ∃ qualifier name, ColumnRef.IsPlain ⟨qualifier, name, none⟩
    ∧ ColumnRef.WrittenAs ⟨qualifier, name, none⟩ text
  := by
  rcases h with h | h
  · obtain ⟨name, hname, hspells⟩ := h.exists_spells
    use none, name
    constructor
    · constructor
      · simp
      · apply hname
      · simp
    · apply hspells
  · obtain ⟨⟨qualifier, name, label⟩, hcolumn, hwritten⟩ := h.exists_writtenAs
    cases hcolumn.unlabelled
    use qualifier, name, hcolumn.toIsPlain, hwritten

/-- A part is decoded as a value exactly if it encodes it. -/
theorem decode_eq_ok_iff {part value : List Char} :
  decode part = .ok value ↔ Encodes part (String.ofList value)
  := by
  rw [← decode?_eq_some_iff, decode]
  cases Percent.decode? part <;> simp

theorem isNameText_of_decode
    {part name : List Char} (h : decode part = .ok name) (hname : isIdentifier name = true) :
  IsNameText part
  := by
  use String.ofList name, isName_ofList hname, decode_eq_ok_iff.mp h

/-- Whatever is read as a name is the text of one. -/
theorem isNameText_of_parseName
    {spec part : List Char} {name : String} (h : parseName spec part = .ok name) :
  IsNameText part
  := by
  obtain ⟨text, htext, h⟩ := bind_eq_ok_iff.mp h
  split at h
  · rename_i hname
    apply isNameText_of_decode htext hname
  · cases h

/-- A column is read from a text of a column, and it is qualified if the text is. -/
theorem isColumnText_of_parseColumn
    {text : List Char} {column : ColumnRef} (h : parseColumn text = .ok column) :
  (column.qualifier = none ∧ IsNameText text)
    ∨ (column.qualifier.isSome = true ∧ IsQualifiedText text)
  := by
  have hjoined : ['.'].intercalate (text.splitOn '.') = text := List.intercalate_splitOn '.'
  rw [parseColumn] at h
  split at h
  · rename_i part hsplit
    obtain ⟨name, hname, h⟩ := bind_eq_ok_iff.mp h
    cases h
    rw [hsplit, List.intercalate_singleton] at hjoined
    rw [hjoined] at hname
    apply Or.inl ⟨rfl, isNameText_of_parseName hname⟩
  · rename_i first second hsplit
    obtain ⟨qualifier, hqualifier, h⟩ := bind_eq_ok_iff.mp h
    obtain ⟨name, hname, h⟩ := bind_eq_ok_iff.mp h
    rw [hsplit, List.intercalate_cons_cons, List.intercalate_singleton, List.append_assoc]
      at hjoined
    split at h
    · rename_i hnames
      rw [Bool.and_eq_true] at hnames
      cases h
      refine Or.inr ⟨rfl, first, second, hjoined.symm, ?_, ?_⟩
      · apply isNameText_of_decode hqualifier hnames.1
      · apply isNameText_of_decode hname hnames.2
    · cases h
  · cases h

/-- A column is read from a text exactly if the text is one of a column. -/
theorem exists_parseColumn_iff (text : List Char) :
  (∃ column, parseColumn text = .ok column) ↔ IsColumnText text
  := by
  constructor
  · rintro ⟨column, h⟩
    rcases isColumnText_of_parseColumn h with ⟨-, h⟩ | ⟨-, h⟩
    · apply Or.inl h
    · apply Or.inr h
  · intro h
    obtain ⟨qualifier, name, hcolumn, hwritten⟩ := h.exists_writtenAs
    use ⟨qualifier, name, none⟩, parseColumn_of_writtenAs hcolumn hwritten

/-- A column with its qualifier is read from a text exactly if it is the text of one. -/
theorem exists_parseQualified_iff (relation text : List Char) :
  (∃ column, parseQualified relation text = .ok column) ↔ IsQualifiedText text
  := by
  constructor
  · rintro ⟨column, h⟩
    rw [parseQualified] at h
    split at h
    · rename_i found hfound
      rcases isColumnText_of_parseColumn hfound with ⟨hnone, -⟩ | ⟨-, htext⟩
      · rw [hnone] at h
        cases h
      · apply htext
    · cases h
  · intro h
    obtain ⟨column, hcolumn, hwritten⟩ := h.exists_writtenAs
    use column, parseQualified_of_writtenAs hcolumn hwritten relation

/-- A selected column is read from a text exactly if it is the text of one. -/
theorem exists_parseSelected_iff (text : List Char) :
  (∃ column, parseSelected text = .ok column) ↔ IsSelectedText text
  := by
  constructor
  · rintro ⟨column, h⟩
    rw [parseSelected] at h
    split at h
    · apply Or.inl ((exists_parseColumn_iff _).mp ⟨column, h⟩)
    · rename_i reference label hcut
      obtain ⟨found, hfound, h⟩ := bind_eq_ok_iff.mp h
      obtain ⟨name, hname, -⟩ := bind_eq_ok_iff.mp h
      refine Or.inr ⟨reference, label, (eq_append_of_cutAt? hcut).1, ?_, ?_⟩
      · apply (exists_parseColumn_iff _).mp ⟨found, hfound⟩
      · apply isNameText_of_parseName hname
  · rintro (h | ⟨reference, label, rfl, hreference, hlabel⟩)
    · obtain ⟨qualifier, name, hcolumn, hwritten⟩ := h.exists_writtenAs
      use ⟨qualifier, name, none⟩, parseSelected_of_selectedAs hcolumn hwritten
    · obtain ⟨qualifier, name, hcolumn, hwritten⟩ := hreference.exists_writtenAs
      obtain ⟨shown, hshown, hspells⟩ := hlabel.exists_spells
      use ⟨qualifier, name, some shown⟩
      apply parseSelected_of_selectedAs
      · use hcolumn.qualifier, hcolumn.name
        simpa using hshown
      · use reference, label, rfl, hwritten

/-! ### Reading conditions and joins -/

/-- A join is read from a text exactly if it is the text of one. -/
theorem exists_parseJoin_iff (kind : JoinKind) (text : List Char) :
  (∃ join, parseJoin kind text = .ok join) ↔ IsJoinText text
  := by
  constructor
  · rintro ⟨join, h⟩
    obtain ⟨part, on, hon, first, second, hsides, table, htable, ⟨hname, -⟩, left, hleft, right,
      hright, -⟩ := parseJoin_eq_ok_iff.mp h
    obtain ⟨rfl, -⟩ := eq_append_of_cutAt? hon
    obtain rfl := eq_append_of_cutAtWord? hsides
    use part, first, second, rfl, isNameText_of_decode htable hname
    use (exists_parseQualified_iff _ _).mp ⟨left, hleft⟩
    apply (exists_parseQualified_iff _ _).mp ⟨right, hright⟩
  · rintro ⟨part, first, second, rfl, hpart, hfirst, hsecond⟩
    obtain ⟨table, htable, hspells⟩ := hpart.exists_spells
    obtain ⟨left, hleft, hleftWritten⟩ := hfirst.exists_writtenAs
    obtain ⟨right, hright, hrightWritten⟩ := hsecond.exists_writtenAs
    have hjoin : (Join.mk kind table left right).IsPlain := ⟨htable, hleft, hright⟩
    use ⟨kind, table, left, right⟩
    apply parseJoin_of_writtenAs hjoin
    use part, first, second

/-- The parts of a text can all be read exactly when the text is joined of parts that can be
read. -/
theorem exists_mapM_splitOn_iff
    {β : Type} {f : List Char → Except RequestError β} {P : List Char → Prop}
    (hf : ∀ part, (∃ y, f part = .ok y) ↔ P part) {c : Char} {text : List Char} :
  (∃ ys, (text.splitOn c).mapM f = .ok ys) ↔ Separated c P text
  := by
  simp only [exists_mapM_eq_ok_iff, hf, separated_iff]

/-- Values are read from a text exactly if each part of it is the text of one. -/
theorem exists_parseValues_iff {text : List Char} (h : text ≠ []) :
  (∃ values, parseValues text = .ok values) ↔ Separated ',' IsValueText text
  := by
  rw [parseValues, if_neg (by rwa [List.isEmpty_iff])]
  apply exists_mapM_splitOn_iff
  intro part
  simp only [map_eq_ok_iff, decode_eq_ok_iff, IsValueText]
  constructor
  · rintro ⟨_, value, hvalue, -⟩
    use String.ofList value
  · rintro ⟨value, hvalue⟩
    use value, value.toList
    rw [String.ofList_toList]
    use hvalue

/-- There are values exactly when there is a text of values. -/
theorem isEmpty_of_parseValues {text : List Char} {values : List String}
    (h : parseValues text = .ok values) :
  values.isEmpty = text.isEmpty
  := by
  rw [parseValues] at h
  split at h
  · rename_i hempty
    cases h
    rw [hempty]
    rfl
  · rename_i hne
    rw [Bool.not_eq_true] at hne
    rw [hne, List.isEmpty_eq_false_iff]
    apply ne_nil_of_mapM_splitOn h

/-- A condition is read from a text exactly if it is the text of one. -/
theorem exists_parseCondition_iff
    {operators : OperatorTable} (hoperators : operators.IsOrdered) (text : List Char) :
  (∃ condition, parseCondition operators text = .ok condition)
    ↔ IsConditionText operators text
  := by
  constructor
  · rintro ⟨condition, h⟩
    obtain ⟨-, found, hfound, hempty, column, hcolumn, values, hvalues, -⟩ :=
      parseCondition_eq_ok_iff.mp h
    use found, hoperators.find?_eq_some_iff.mp hfound
    use (exists_parseColumn_iff _).mp ⟨column, hcolumn⟩
    split
    · rename_i hnull
      rw [hnull, List.isEmpty_iff] at hempty
      apply hempty
    · rename_i hnull
      rw [Bool.not_eq_true] at hnull
      rw [hnull, List.isEmpty_eq_false_iff] at hempty
      apply And.intro hempty ((exists_parseValues_iff hempty).mp ⟨values, hvalues⟩)
  · rintro ⟨found, hfinds, hcolumn, hafter⟩
    have hfound := hoperators.find?_eq_some_iff.mpr hfinds
    obtain ⟨column, hread⟩ := (exists_parseColumn_iff _).mpr hcolumn
    have hvalues : found.after.isEmpty = found.operator.isNullTest
        ∧ ∃ values, parseValues found.after = .ok values := by
      split at hafter
      · rename_i hnull
        rw [hafter, hnull]
        use rfl, []
        rfl
      · rename_i hnull
        rw [Bool.not_eq_true] at hnull
        rw [hnull, List.isEmpty_eq_false_iff, exists_parseValues_iff hafter.1]
        apply hafter
    obtain ⟨hempty, values, hvalues⟩ := hvalues
    -- Whether there are values is checked again where the condition is made, but of the values
    -- themselves.
    have hvalid : values.isEmpty = found.operator.isNullTest := by
      rw [isEmpty_of_parseValues hvalues, hempty]
    use ⟨column, found.operator, values, hvalid⟩
    apply parseCondition_eq_ok_iff.mpr
    constructor
    · rintro rfl
      cases hfound
    · use found, hfound, hempty, column, hread, values, hvalues
      rw [Condition.make, dif_pos hvalid]

/-! ### Reading clauses -/

/-- A bound is read from a text exactly if it is the text of one. -/
theorem exists_parseBound_iff (bound : RowBound) (text : List Char) :
  (∃ rows, parseBound bound text = .ok rows) ↔ IsBoundText text
  := by
  simp only [parseBound_eq_ok_iff, Number.unsigned?_eq_some_iff, Number.natOfDigits?_eq_some_iff]
  constructor
  · rintro ⟨_, ⟨digits, htext, hne, hdigits, rfl⟩, hlt⟩
    use digits, htext, hne, hdigits
  · rintro ⟨digits, htext, hne, hdigits, hlt⟩
    use Nat.ofDigitChars 10 digits 0, ⟨digits, htext, hne, hdigits, rfl⟩

/-- A clause is read exactly from the texts of clauses. -/
theorem exists_parseClause_iff
    {operators : OperatorTable} (hoperators : operators.IsOrdered) (text : List Char) :
  (∃ clause, parseClause operators text = .ok clause) ↔ IsClauseText operators text
  := by
  have hconditions : ∀ value, (∃ conditions, (value.splitOn ';').mapM (parseCondition operators)
      = .ok conditions) ↔ Separated ';' (IsConditionText operators) value :=
    fun value => exists_mapM_splitOn_iff (exists_parseCondition_iff hoperators)
  have hcolumns : ∀ value, (∃ columns, (value.splitOn ',').mapM parseSelected = .ok columns)
      ↔ Separated ',' IsSelectedText value :=
    fun value => exists_mapM_splitOn_iff exists_parseSelected_iff
  have hjoins : ∀ kind value, (∃ joins, (value.splitOn ';').mapM (parseJoin kind) = .ok joins)
      ↔ Separated ';' IsJoinText value :=
    fun kind value => exists_mapM_splitOn_iff (exists_parseJoin_iff kind)
  constructor
  · rintro ⟨clause, h⟩
    obtain ⟨keyword, value, hcut, hreads⟩ := parseClause_eq_ok_iff.mp h
    obtain ⟨rfl, -⟩ := eq_append_of_cutAt? hcut
    rw [← String.toList_ofList (l := keyword)]
    generalize String.ofList keyword = word at hreads ⊢
    cases hreads with
    | @filter _ _ conditions hkeyword hread =>
        apply IsClauseText.filter hkeyword ((hconditions value).mp ⟨conditions, hread⟩)
    | @select _ _ columns hkeyword hread =>
        apply IsClauseText.select hkeyword ((hcolumns value).mp ⟨columns, hread⟩)
    | @join kind _ joins hread => apply IsClauseText.join ((hjoins kind value).mp ⟨joins, hread⟩)
    | @limit _ rows hread =>
        apply IsClauseText.bound (.inl rfl) ((exists_parseBound_iff _ _).mp ⟨rows, hread⟩)
    | @offset _ rows hread =>
        apply IsClauseText.bound (.inr rfl) ((exists_parseBound_iff _ _).mp ⟨rows, hread⟩)
  · intro h
    cases h with
    | @filter keyword value hkeyword h =>
        obtain ⟨conditions, hread⟩ := (hconditions value).mpr h
        use .filter conditions, parseClause_append (.filter hkeyword hread)
    | @select keyword value hkeyword h =>
        obtain ⟨columns, hread⟩ := (hcolumns value).mpr h
        use .select columns, parseClause_append (.select hkeyword hread)
    | @join kind value h =>
        obtain ⟨joins, hread⟩ := (hjoins kind value).mpr h
        use .join joins, parseClause_append (.join hread)
    | @bound keyword value hkeyword h =>
        rcases hkeyword with rfl | rfl
        · obtain ⟨rows, hread⟩ := (exists_parseBound_iff .limit value).mpr h
          use .limit rows, parseClause_append (.limit hread)
        · obtain ⟨rows, hread⟩ := (exists_parseBound_iff .offset value).mpr h
          use .offset rows, parseClause_append (.offset hread)

/-! ### Reading paths -/

/-- A query is read exactly from the texts of its clauses. -/
theorem exists_parse_iff
    {operators : OperatorTable} (hoperators : operators.IsOrdered) (table text : String) :
  (∃ query, parse operators table text = .ok query) ↔ IsQueryText operators text.toList
  := by
  have hclauses : (∃ query, parse operators table text = .ok query)
      ↔ ∃ clauses, (clauseTexts text.toList).mapM (parseClause operators) = .ok clauses := by
    rw [parse_eq]
    simp only [map_eq_ok_iff]
    constructor
    · rintro ⟨_, clauses, hread, -⟩
      use clauses
    · rintro ⟨clauses, hread⟩
      use clauses.foldl apply (ofTable table), clauses
  rw [hclauses, exists_mapM_eq_ok_iff, IsQueryText, separated_iff, clauseTexts]
  simp only [List.mem_filter, Bool.not_eq_true', List.isEmpty_eq_false_iff,
    exists_parseClause_iff hoperators, and_imp, or_iff_not_imp_left, ne_eq]

/-- A table is read exactly from the texts of resources. -/
theorem exists_tableOfPath?_iff {text : List Char} :
  (∃ table, tableOfPath? text = some table) ↔ IsResourceText text
  := by
  constructor
  · rintro ⟨table, h⟩
    have htable := isIdentifier_of_tableOfPath? h
    unfold tableOfPath? at h
    split at h
    · rename_i rest
      obtain ⟨-, heq⟩ := Option.ite_none_right_eq_some.mp h
      use table, htable
      split at heq
      · rename_i hlast
        cases heq
        right
        rw [List.dropLast_append_getLast? '/' hlast]
      · cases heq
        apply Or.inl rfl
    · cases h
  · rintro ⟨name, hname, rfl | rfl⟩
    · have hread := tableOfPath?_cons (isName_ofList hname)
      rw [String.toList_ofList] at hread
      use name
    · use name
      rw [tableOfPath?, List.getLast?_concat, if_pos rfl, List.dropLast_concat, if_pos hname]

theorem IsResourceText.not_mem {text : List Char} (h : IsResourceText text) :
  '?' ∉ text
  := by
  obtain ⟨name, hname, htext⟩ := h
  have hmark : '?' ∉ name := by
    intro hmem
    cases (isIdentifier_iff.mp hname).2 '?' hmem
  rcases htext with rfl | rfl <;> simp [hmark]

/-- A query is read from a table and its clauses, on the two sides of the question mark. -/
theorem exists_parsePath_iff
    {operators : OperatorTable} (hoperators : operators.IsOrdered) (path : String)
    {resource clauses : List Char}
    (hcut : (cutAt? '?' path.toList).getD (path.toList, []) = (resource, clauses)) :
  (∃ query, parsePath operators path = .ok query)
    ↔ IsResourceText resource ∧ IsQueryText operators clauses
  := by
  rw [parsePath, hcut, ← exists_tableOfPath?_iff]
  cases htable : tableOfPath? resource with
  | none => simp [htable]
  | some table => simp [htable, exists_parse_iff hoperators]

/-- A query may have no clauses. -/
theorem isQueryText_nil (operators : OperatorTable) :
  IsQueryText operators []
  := by
  rw [IsQueryText, separated_iff, List.splitOn_nil, List.forall_mem_singleton]
  apply Or.inl rfl

/-- With the tokens of requests, a path is read exactly when it is a text of the grammar: every
clause of it must be one, also where a later one of its kind counts. -/
theorem parsePath_accepts (path : String) :
  (∃ query, parsePath .standard path = .ok query) ↔ IsPathText .standard path.toList
  := by
  have hoperators := delimits_standard.isOrdered
  constructor
  · intro h
    cases hcut : cutAt? '?' path.toList with
    | none =>
        have hread := (exists_parsePath_iff hoperators path (by rw [hcut, Option.getD_none])).mp h
        apply Or.inl hread.1
    | some parts =>
        have hread := (exists_parsePath_iff hoperators path (by rw [hcut, Option.getD_some])).mp h
        apply Or.inr ⟨parts.1, parts.2, (eq_append_of_cutAt? hcut).1, hread⟩
  · rintro (hresource | ⟨resource, query, hpath, hresource, hquery⟩)
    · have hcut := cutAt?_eq_none_iff.mpr hresource.not_mem
      apply (exists_parsePath_iff hoperators path (by rw [hcut, Option.getD_none])).mpr
      apply And.intro hresource (isQueryText_nil .standard)
    · have hcut := cutAt?_append '?' resource query hresource.not_mem
      apply (exists_parsePath_iff hoperators path (by rw [hpath, hcut, Option.getD_some])).mpr
      apply And.intro hresource hquery

end TableGateway.Query
