import Mathlib.Data.List.Forall2
import TableGateway.Proofs.Query.Token
import TableGateway.Proofs.Query.Writing

/-!
# Reading what was written

A query is read back from every path that writes it. Each part is read back from every text
that writes it: the text is cut where its separators were put, since its parts are written
without them, and only then are the parts decoded.
-/

namespace TableGateway

open Outcome Text

/-- Values are read from the texts that write them, if each one is. -/
theorem Outcome.mapM_eq_ok_of_forall₂
    {ε α β : Type} {f : α → Except ε β} {P : β → Prop} {R : β → α → Prop}
    (hf : ∀ x y, P y → R y x → f x = .ok y) {xs : List α} {ys : List β}
    (h : List.Forall₂ R ys xs) (hys : ∀ y ∈ ys, P y) :
  xs.mapM f = .ok ys
  := by
  apply mapM_eq_ok_iff.mpr
  induction h with
  | nil => apply List.Forall₂.nil
  | cons hxy _ ih =>
      rw [List.forall_mem_cons] at hys
      apply List.Forall₂.cons
      · apply hf _ _ hys.1 hxy
      · apply ih hys.2

/-- Values are read from the joined texts that write them, if each one is written without the
separator. -/
theorem mapM_splitOn_eq_ok
    {ε β : Type} {f : List Char → Except ε β} {P : β → Prop} {R : β → List Char → Prop}
    {c : Char} (hf : ∀ text y, P y → R y text → f text = .ok y)
    (hc : ∀ y text, R y text → c ∉ text) {ys : List β} {texts : List (List Char)}
    (h : List.Forall₂ R ys texts) (hne : ys ≠ []) (hys : ∀ y ∈ ys, P y) :
  (([c].intercalate texts).splitOn c).mapM f = .ok ys
  := by
  have htexts : texts ≠ [] := by
    rintro rfl
    cases h
    apply hne rfl
  rw [List.splitOn_intercalate c _ htexts]
  · apply mapM_eq_ok_of_forall₂ hf h hys
  · apply not_mem_of_forall₂ hc h

/-! ### Names and columns -/

namespace Query

theorem decode_of_spells {text : List Char} {value : String} (h : Spells text value) :
  decode text = .ok value.toList
  := by
  rw [decode, decode?_of_spells h]

theorem parseName_of_spells
    {text : List Char} {name : String} (h : Spells text name) (hname : IsName name)
    (spec : List Char) :
  parseName spec text = .ok name
  := by
  apply bind_eq_ok_iff.mpr
  use name.toList, decode_of_spells h
  rw [IsName] at hname
  rw [if_pos hname, String.ofList_toList]
  rfl

/-- A column is read from a text that writes it, without the name it is returned under. -/
theorem parseColumn_of_writtenAs
    {column : ColumnRef} {text : List Char} (hcolumn : column.IsPlain)
    (h : column.WrittenAs text) :
  parseColumn text = .ok { column with label := none }
  := by
  obtain ⟨qualifier, name, label⟩ := column
  cases qualifier with
  | none =>
      have hsplit : text.splitOn '.' = [text] := by
        apply List.splitOn_eq_singleton
        apply not_mem_of_spells h
        decide
      rw [parseColumn, hsplit]
      apply bind_eq_ok_iff.mpr
      use name, parseName_of_spells h hcolumn.name text
      rfl
  | some table =>
      obtain ⟨first, second, rfl, hfirst, hsecond⟩ := h
      have hsplit : (first ++ '.' :: second).splitOn '.' = [first, second] := by
        rw [List.splitOn_append_cons_self_of_not_mem (not_mem_of_spells hfirst rfl),
          List.splitOn_eq_singleton (not_mem_of_spells hsecond rfl)]
      rw [parseColumn, hsplit]
      apply bind_eq_ok_iff.mpr
      use table.toList, decode_of_spells hfirst
      apply bind_eq_ok_iff.mpr
      use name.toList, decode_of_spells hsecond
      have hnames : (isIdentifier table.toList && isIdentifier name.toList) = true := by
        rw [Bool.and_eq_true]
        use hcolumn.qualifier table rfl, hcolumn.name
      rw [if_pos hnames, String.ofList_toList, String.ofList_toList]
      rfl

/-- A column to return is read from a text that writes it. -/
theorem parseSelected_of_selectedAs
    {column : ColumnRef} {text : List Char} (hcolumn : column.IsPlain)
    (h : column.SelectedAs text) :
  parseSelected text = .ok column
  := by
  obtain ⟨qualifier, name, label⟩ := column
  cases label with
  | none =>
      have hcut : cutAt? ':' text = none := by
        apply cutAt?_eq_none_iff.mpr
        apply ColumnRef.WrittenAs.not_mem h rfl
      rw [parseSelected, hcut]
      apply parseColumn_of_writtenAs hcolumn h
  | some label =>
      obtain ⟨reference, spelling, rfl, hreference, hlabel⟩ := h
      have hcut := cutAt?_append ':' reference spelling (hreference.not_mem rfl)
      rw [parseSelected, hcut]
      apply bind_eq_ok_iff.mpr
      use ⟨qualifier, name, none⟩, parseColumn_of_writtenAs hcolumn hreference
      apply bind_eq_ok_iff.mpr
      use label, parseName_of_spells hlabel (hcolumn.label label rfl) _
      rfl

/-! ### Conditions -/

/-- The tokens of requests can be told from the columns before and the values after them. -/
theorem delimits_standard :
  OperatorTable.standard.Delimits isColumnChar isValueChar
  := by
  constructor
  · rw [OperatorTable.entries_standard]
    decide
  · rw [OperatorTable.entries_standard]
    decide +kernel
  · rw [OperatorTable.entries_standard]
    decide +kernel

/-- Values are read from texts that spell them, unless these are a single empty text. -/
theorem parseValues_of_forall₂_spells
    {texts : List (List Char)} {values : List String} (h : List.Forall₂ Spells texts values)
    (hvalues : values ≠ [""]) :
  parseValues ([','].intercalate texts) = .ok values
    ∧ ([','].intercalate texts).isEmpty = values.isEmpty
  := by
  cases h with
  | nil =>
      constructor
      · rfl
      · rfl
  | @cons text value texts values hvalue hrest =>
      have hne : [','].intercalate (text :: texts) ≠ [] := by
        cases hrest with
        | nil =>
            rw [List.intercalate_singleton]
            rintro rfl
            rw [eq_empty_of_spells_nil hvalue] at hvalues
            apply hvalues rfl
        | cons =>
            rw [List.intercalate_cons_cons]
            simp
      constructor
      · rw [parseValues, if_neg (by rwa [List.isEmpty_iff])]
        have hspells := (List.Forall₂.cons hvalue hrest).flip
        apply mapM_splitOn_eq_ok (P := fun _ => True) _ _ hspells (List.cons_ne_nil _ _)
          (fun _ _ => trivial)
        · intro text value _ hvalue
          apply map_eq_ok_iff.mpr
          use value.toList, decode_of_spells hvalue, String.ofList_toList
        · intro value text hvalue
          apply not_mem_of_spells hvalue rfl
      · rw [List.isEmpty_eq_false_iff.mpr hne]
        rfl

/-- A condition is read from a text that writes it, unless its only value is empty. -/
theorem parseCondition_of_writtenAs
    {condition : Condition} {text : List Char} (hcondition : condition.IsPlain)
    (hvalues : condition.values ≠ [""]) (h : condition.WrittenAs text) :
  parseCondition .standard text = .ok condition
  := by
  obtain ⟨before, token, after, rfl, hcolumn, htoken, hafter⟩ := h
  have hfound := delimits_standard.find?_eq_some htoken hcolumn.isColumnChar_of_mem
    (isValueChar_of_forall₂_spells hafter)
  obtain ⟨hread, hempty⟩ := parseValues_of_forall₂_spells hafter hvalues
  apply parseCondition_eq_ok_iff.mpr
  constructor
  · intro hnil
    rw [hnil] at hfound
    cases hfound
  use ⟨before, token, condition.operator, [','].intercalate after⟩, hfound
  constructor
  · rw [hempty, condition.valid]
  use condition.column
  constructor
  · have hread := parseColumn_of_writtenAs hcondition.column hcolumn
    rw [← hcondition.label] at hread
    apply hread
  · use condition.values, hread
    rw [Condition.make, dif_pos condition.valid]

/-! ### Joins -/

/-- A text is cut at the first occurrence of a word, which begins with a character that the
text before it does not have. -/
theorem cutAtWord?_append
    {c : Char} {word before : List Char} (h : c ∉ before) (after : List Char) :
  cutAtWord? (c :: word) (before ++ (c :: word) ++ after) = some (before, after)
  := by
  induction before with
  | nil => simp [cutAtWord?, List.isPrefixOf_iff_prefix]
  | cons d before ih =>
      rw [List.mem_cons, not_or] at h
      rw [List.cons_append, List.cons_append, cutAtWord?, if_neg, ih h.2]
      · rfl
      · rw [List.isPrefixOf_iff_prefix, List.cons_prefix_cons]
        rintro ⟨hc, -⟩
        apply h.1 hc

theorem cutAtWord?_eq_none
    {c : Char} {word text : List Char} (h : c ∉ text) :
  cutAtWord? (c :: word) text = none
  := by
  cases hcut : cutAtWord? (c :: word) text with
  | none => rfl
  | some parts =>
      rw [eq_append_of_cutAtWord? hcut] at h
      simp at h

/-- A column of a join is read from a text that writes it. -/
theorem parseQualified_of_writtenAs
    {column : ColumnRef} {text : List Char} (hcolumn : column.IsJoined)
    (h : column.WrittenAs text) (relation : List Char) :
  parseQualified relation text = .ok column
  := by
  rw [parseQualified, parseColumn_of_writtenAs hcolumn.toIsPlain h]
  simp only [hcolumn.qualified, ↓reduceIte, ← hcolumn.unlabelled]

/-- A join is read from a text that writes it. -/
theorem parseJoin_of_writtenAs
    {join : Join} {text : List Char} (hjoin : join.IsPlain) (h : join.WrittenAs text) :
  parseJoin join.kind text = .ok join
  := by
  obtain ⟨table, left, right, rfl, htable, hleft, hright⟩ := h
  apply parseJoin_eq_ok_iff.mpr
  use table, left ++ ['=', '='] ++ right, cutAt?_append ':' _ _ (not_mem_of_spells htable rfl)
  use left, right, cutAtWord?_append (hleft.not_mem rfl) right
  use join.table.toList, decode_of_spells htable
  constructor
  · use hjoin.table, cutAtWord?_eq_none (hright.not_mem rfl)
  use join.left, parseQualified_of_writtenAs hjoin.left hleft _
  use join.right, parseQualified_of_writtenAs hjoin.right hright _
  rw [String.ofList_toList]

/-! ### Clauses -/

/-- A clause is read from its value after its keyword, which has no equality sign. -/
theorem parseClause_append
    {operators : OperatorTable} {keyword : String} {value : List Char} {clause : Clause}
    (h : ReadsValue operators keyword value clause) :
  parseClause operators (keyword.toList ++ '=' :: value) = .ok clause
  := by
  have hkeyword : '=' ∉ keyword.toList := by
    cases h with
    | filter hkeyword _ => rcases hkeyword with rfl | rfl <;> decide
    | select hkeyword _ => rcases hkeyword with rfl | rfl <;> decide
    | @join kind => cases kind <;> decide
    | limit => decide
    | offset => decide
  apply parseClause_eq_ok_iff.mpr
  use keyword.toList, value, cutAt?_append '=' _ value hkeyword
  rw [String.ofList_toList]
  apply h

theorem parseBound_eq_ok_iff {bound : RowBound} {text : List Char} {rows : Nat} :
  parseBound bound text = .ok rows ↔ Number.unsigned? text = some rows ∧ rows < 2 ^ 64
  := by
  have hread : Number.unsignedBelow? (2 ^ 64) text = some rows
      ↔ Number.unsigned? text = some rows ∧ rows < 2 ^ 64 := by
    rw [Number.unsignedBelow?, Option.filter_eq_some_iff, decide_eq_true_iff]
  rw [← hread, parseBound]
  cases Number.unsignedBelow? (2 ^ 64) text <;> simp

theorem parseBound_natDigits {rows : Nat} (h : rows < 2 ^ 64) (bound : RowBound) :
  parseBound bound (Number.natDigits rows) = .ok rows
  := parseBound_eq_ok_iff.mpr ⟨Number.unsigned?_natDigits rows, h⟩

/-- A clause of a query that can be written is read from a text that writes it. -/
theorem parseClause_of_writtenAs
    {query : Query} (hquery : query.Writable) {clause : Clause} (hclause : query.Says clause)
    {text : List Char} (h : clause.WrittenAs text) :
  parseClause .standard text = .ok clause
  := by
  have hplain := hclause.isPlain hquery.toWellFormed
  cases h with
  | @filter keyword conditions texts hkeyword hne htexts =>
      obtain rfl := hclause
      have hread : ((([';'].intercalate texts).splitOn ';').mapM (parseCondition .standard))
          = .ok query.conditions := by
        apply mapM_splitOn_eq_ok
          (P := fun condition => condition.IsPlain ∧ condition.values ≠ [""]) _ _ htexts hne
        · intro condition hcondition
          use hplain condition hcondition, hquery.values condition hcondition
        · intro text condition hcondition htext
          apply parseCondition_of_writtenAs hcondition.1 hcondition.2 htext
        · intro condition text htext
          apply htext.not_mem (.inl rfl)
      apply parseClause_append (.filter hkeyword hread)
  | @select keyword columns texts hkeyword hne htexts =>
      have hread : (([','].intercalate texts).splitOn ',').mapM parseSelected
          = .ok columns := by
        apply mapM_splitOn_eq_ok (P := ColumnRef.IsPlain) _ _ htexts hne hplain
        · intro text column hcolumn htext
          apply parseSelected_of_selectedAs hcolumn htext
        · intro column text htext
          apply htext.not_mem rfl (by decide)
      apply parseClause_append (.select hkeyword hread)
  | @join join text htext =>
      have hread : (text.splitOn ';').mapM (parseJoin join.kind) = .ok [join] := by
        rw [List.splitOn_eq_singleton (htext.not_mem rfl (by decide) (by decide))]
        apply mapM_eq_ok_iff.mpr
        apply List.Forall₂.cons _ .nil
        apply parseJoin_of_writtenAs _ htext
        apply hplain join List.mem_cons_self
      apply parseClause_append (.join hread)
  | @limit rows =>
      apply parseClause_append (.limit (parseBound_natDigits (hquery.limit rows hclause) .limit))
  | @offset rows =>
      apply parseClause_append (.offset (parseBound_natDigits (hquery.offset rows hclause) .offset))

/-! ### Paths -/

/-- Clauses are found again in their joined texts. -/
theorem clauseTexts_intercalate
    {clauses : List Clause} {texts : List (List Char)}
    (h : List.Forall₂ Clause.WrittenAs clauses texts) :
  clauseTexts (['&'].intercalate texts) = texts
  := by
  apply filter_splitOn_intercalate
  · intro text htext
    obtain ⟨clause, hclause⟩ := exists_forall₂_iff.mp ⟨clauses, h.flip⟩ text htext
    apply hclause.ne_nil
  · apply not_mem_of_forall₂ (fun _ _ hclause => hclause.not_mem) h

/-- Clauses that are read one after the other are applied one after the other. -/
theorem foldlM_apply_eq_ok
    {operators : OperatorTable} {clauses : List Clause} {texts : List (List Char)}
    (h : List.Forall₂ (fun clause text => parseClause operators text = .ok clause) clauses texts)
    (query : Query) :
  texts.foldlM (fun query text => query.apply <$> parseClause operators text) query
    = .ok (clauses.foldl apply query)
  := by
  rw [foldlM_apply_eq, mapM_eq_ok_iff.mpr h.flip]
  rfl

theorem tableOfPath?_cons {name : String} (h : IsName name) :
  tableOfPath? ('/' :: name.toList) = some name.toList
  := by
  have hlast : name.toList.getLast? ≠ some '/' := by
    intro hlast
    have hchar := h.isIdentifierChar '/' (List.mem_of_getLast? hlast)
    cases hchar
  rw [IsName] at h
  rw [tableOfPath?, if_neg hlast, if_pos h]

/-- A query is read back from every path that writes it. -/
theorem parsePath_of_writtenAs
    {query : Query} {path : String} (hquery : query.Writable) (h : query.WrittenAs path) :
  parsePath .standard path = .ok query
  := by
  obtain ⟨clauses, texts, hclauses, htexts, hpath⟩ := h
  have hmark : '?' ∉ '/' :: query.table.toList := by
    rw [List.mem_cons, not_or]
    use by decide
    intro hmem
    cases hquery.table.isIdentifierChar '?' hmem
  have hcut : cutAt? '?' path.toList
      = some ('/' :: query.table.toList, ['&'].intercalate texts) := by
    rw [hpath, cutAt?_append '?' _ _ hmark]
  have hread : List.Forall₂ (fun clause text => parseClause .standard text = .ok clause)
      clauses texts := by
    have hall := (List.forall₂_and_left _ _).mpr ⟨hclauses.says_of_mem, htexts⟩
    apply hall.imp
    rintro clause text ⟨hclause, htext⟩
    apply parseClause_of_writtenAs hquery hclause htext
  rw [parsePath, hcut]
  simp only [Option.getD_some, tableOfPath?_cons hquery.table, String.ofList_toList]
  rw [parse, String.toList_ofList, clauseTexts_intercalate htexts, foldlM_apply_eq_ok hread,
    hclauses.foldl_apply_ofTable hquery.toWellFormed]

/-- Titles of a library with separators, an empty text and an accent among the values. -/
def titlesQuery : Query where
  table := "book"
  tables := ["book", "author"]
  columns := [⟨some "book", "title", some "T"⟩, ⟨none, "name", none⟩]
  conditions := [
    ⟨⟨none, "title", none⟩, .like, ["a,b&c", "", "é"], by decide⟩,
    ⟨⟨some "author", "name", none⟩, .isNotNull, [], by decide⟩]
  joins := [⟨.left, "author", ⟨some "book", "author", none⟩, ⟨some "author", "id", none⟩⟩]
  limit := some 10
  offset := none

/-- A path that writes the query about titles. -/
def titlesPath : String :=
  "/book?limit=10&fields=book.titl%65:T,name&left_join=%61uthor:book.author==author.id"
    ++ "&where=title=like=a%2Cb%26c,,%C3%a9;author.name=nn="

theorem writable_titlesQuery :
  titlesQuery.Writable
  where
  toWellFormed := by decide +kernel
  values := by decide
  limit := by decide
  offset := by decide

theorem writtenAs_titlesQuery :
  titlesQuery.WrittenAs titlesPath
  := by
  have hself : ∀ name, IsName name → Spells name.toList name :=
    fun _ h => spellsOctets_self h.isIdentifierChar
  have htitle : Spells ['t', 'i', 't', 'l', '%', '6', '5'] "title" := by
    have hoctets : utf8Octets "title".toList = [116, 105, 116, 108, 101] := by
      decide +kernel
    rw [Spells, hoctets]
    exact .plain rfl (.plain rfl (.plain rfl (.plain rfl (.escaped (.inl rfl) (.inl rfl) .nil))))
  have hauthor : Spells ['%', '6', '1', 'u', 't', 'h', 'o', 'r'] "author" := by
    have hoctets : utf8Octets "author".toList = [97, 117, 116, 104, 111, 114] := by
      decide +kernel
    rw [Spells, hoctets]
    exact .escaped (.inl rfl) (.inl rfl)
      (.plain rfl (.plain rfl (.plain rfl (.plain rfl (.plain rfl .nil)))))
  have hmarks : Spells ['a', '%', '2', 'C', 'b', '%', '2', '6', 'c'] "a,b&c" := by
    have hoctets : utf8Octets "a,b&c".toList = [97, 44, 98, 38, 99] := by
      decide +kernel
    rw [Spells, hoctets]
    exact .plain rfl (.escaped (.inl rfl) (.inr rfl)
      (.plain rfl (.escaped (.inl rfl) (.inl rfl) (.plain rfl .nil))))
  have haccent : Spells ['%', 'C', '3', '%', 'a', '9'] "\u00e9" := by
    have hoctets : utf8Octets "\u00e9".toList = [195, 169] := by
      decide +kernel
    rw [Spells, hoctets]
    exact .escaped (.inr rfl) (.inl rfl) (.escaped (.inl rfl) (.inl rfl) .nil)
  have hlike : ("=like=", .like) ∈ OperatorTable.standard.entries := by
    rw [OperatorTable.entries_standard]
    decide
  have hnotNull : ("=nn=", .isNotNull) ∈ OperatorTable.standard.entries := by
    rw [OperatorTable.entries_standard]
    decide
  have hcolumns : List.Forall₂ ColumnRef.SelectedAs titlesQuery.columns
      ["book.titl%65:T".toList, "name".toList] := by
    apply List.Forall₂.cons
    · use "book.titl%65".toList, "T".toList
      refine ⟨rfl, ⟨_, _, ?_, hself _ rfl, htitle⟩, hself _ rfl⟩
      rfl
    · apply List.Forall₂.cons _ .nil
      apply hself "name" rfl
  have hjoin : Join.WrittenAs ⟨.left, "author", ⟨some "book", "author", none⟩,
      ⟨some "author", "id", none⟩⟩ "%61uthor:book.author==author.id".toList := by
    refine ⟨_, "book.author".toList, "author.id".toList, ?_, hauthor,
      ⟨_, _, ?_, hself _ rfl, hself _ rfl⟩, ⟨_, _, ?_, hself _ rfl, hself _ rfl⟩⟩
    · rfl
    · rfl
    · rfl
  have hconditions : List.Forall₂ Condition.WrittenAs titlesQuery.conditions
      ["title=like=a%2Cb%26c,,%C3%a9".toList, "author.name=nn=".toList] := by
    apply List.Forall₂.cons
    · refine ⟨"title".toList, "=like=", _, ?_, hself _ rfl, hlike,
        .cons hmarks (.cons .nil (.cons haccent .nil))⟩
      rfl
    · apply List.Forall₂.cons _ .nil
      refine ⟨"author.name".toList, "=nn=", [], ?_, ⟨_, _, ?_, hself _ rfl, hself _ rfl⟩,
        hnotNull, .nil⟩
      · rfl
      · rfl
  refine ⟨[.limit 10, .select titlesQuery.columns, .join titlesQuery.joins,
    .filter titlesQuery.conditions], _, ?_, .cons .limit
      (.cons (.select (.inr rfl) (by decide) hcolumns)
        (.cons (.join hjoin) (.cons (.filter (.inl rfl) (by decide) hconditions) .nil))), ?_⟩
  · constructor
    · rfl
    · rfl
    · rfl
    · rfl
    · rfl
  · decide +kernel

/-- The query about titles is read back from its path. -/
theorem parsePath_of_writtenAs_titles :
  titlesQuery.Writable ∧ titlesQuery.WrittenAs titlesPath
    ∧ parsePath .standard titlesPath = .ok titlesQuery
  := by
  have hwritable := writable_titlesQuery
  have hwritten := writtenAs_titlesQuery
  constructor
  · apply hwritable
  constructor
  · apply hwritten
  · apply parsePath_of_writtenAs hwritable hwritten

end Query

end TableGateway
