import TableGateway.Proofs.Sql.Mention
import TableGateway.Proofs.Sql.Selection
import TableGateway.Text.Ascii

/-!
# Names without quotes

Names stand in the text of a statement without quotes. A database reads such a name only if
it begins with a letter or an underscore, and it reads capital letters as small ones. So the
names in the text, which are those that the catalog has, are read as they are only if they
begin in this way and have no capital letters. Two tables whose names differ in nothing but
capital letters are read as one.
-/

namespace TableGateway

namespace Text

/-- Only capital letters change in lower case. -/
theorem toLower_eq_self_iff {c : Char} :
  c.toLower = c ↔ c.isUpper = false
  := by
  rw [← Bool.not_eq_true]
  constructor
  · intro h hcapital
    have hlower := toNat_toLower hcapital
    rw [h] at hlower
    omega
  · apply toLower_of_not_isUpper

theorem lower_eq_self_iff {text : List Char} :
  lower text = text ↔ ∀ c ∈ text, c.isUpper = false
  := by
  conv_lhs => rw [← List.map_id text, lower, List.map_map, List.map_inj_left]
  simp only [Function.comp_apply, id_eq, toLower_eq_self_iff]

end Text

namespace Sql

/-! ### Reading names -/

/-- The name with its ASCII capital letters made small. -/
def fold (name : String) : String :=
  String.ofList (Text.lower name.toList)

/-- Whether a text begins as a name without quotes does: with a letter or an underscore. -/
def beginsName (isLetter : Char → Bool) (name : String) : Bool :=
  name.toList.head?.any fun c => isLetter c || c == '_'

/-- The name that is read where a name stands without quotes, for a database with the given
letters. -/
def readName? (isLetter : Char → Bool) (name : String) : Option String :=
  if beginsName isLetter name then some (fold name) else none

/-- A name in the form that names are read in: it begins as names do and has no capital
letters. -/
structure IsFolded (isLetter : Char → Bool) (name : String) : Prop where
  begins : beginsName isLetter name = true
  small : ∀ c ∈ name.toList, c.isUpper = false

instance (isLetter : Char → Bool) (name : String) : Decidable (IsFolded isLetter name) :=
  @decidable_of_iff _ (beginsName isLetter name = true ∧ ∀ c ∈ name.toList, c.isUpper = false)
    ⟨fun h => ⟨h.1, h.2⟩, fun h => ⟨h.begins, h.small⟩⟩
    (@instDecidableAnd _ _ inferInstance (List.decidableBAll _ _))

section Reading

variable {isLetter : Char → Bool}

/-- A name is folded to itself exactly if it has no capital letter. -/
theorem fold_eq_self_iff {name : String} :
  fold name = name ↔ ∀ c ∈ name.toList, c.isUpper = false
  := by
  rw [← Text.lower_eq_self_iff, fold, ← String.toList_inj, String.toList_ofList]

/-- A name is read as what it is folded to, if it begins as a name does. -/
theorem readName?_eq_some_iff {name other : String} :
  readName? isLetter name = some other ↔ beginsName isLetter name = true ∧ fold name = other
  := by
  rw [readName?]
  split
  · rename_i hbegins
    rw [Option.some.injEq, and_iff_right hbegins]
  · rename_i hbegins
    simp [hbegins]

/-- A name is read as itself exactly when it is in the form that names are read in. -/
theorem readName?_eq_self_iff {name : String} :
  readName? isLetter name = some name ↔ IsFolded isLetter name
  := by
  rw [readName?_eq_some_iff, fold_eq_self_iff]
  constructor
  · rintro ⟨hbegins, hsmall⟩
    use hbegins, hsmall
  · intro h
    use h.begins, h.small

/-- Names are read as they are exactly if each of them is folded. -/
theorem map_readName?_eq_iff {names : List String} :
  names.map (readName? isLetter) = names.map some ↔ ∀ name ∈ names, IsFolded isLetter name
  := by
  rw [List.map_inj_left]
  simp only [readName?_eq_self_iff]

end Reading

/-! ### Reading the table of a statement -/

/-- The name of the table that a statement is about, as it stands in the text. -/
def target? (text : String) : Option String :=
  match words text with
  | "INSERT" :: "INTO" :: name :: _ => some name
  | "UPDATE" :: name :: _ => some name
  | "DELETE" :: "FROM" :: name :: _ => some name
  | _ => (Selection.ofText? text).map Selection.table

/-- The table that a statement is read to be about, by a database with the given letters. -/
def readTarget? (isLetter : Char → Bool) (text : String) : Option String :=
  (target? text).bind (readName? isLetter)

/-- A text after which a word begins. -/
def EndsApart (text : String) : Prop :=
  ∀ c ∈ text.toList.getLast?, isSeparator c = true

instance (text : String) : Decidable (EndsApart text) :=
  Option.decidableForallMem _

/-- A name between a keyword and a part that stands apart from it is a word. -/
theorem words_keyword_append
    {keyword name rest : String} (hkeyword : EndsApart keyword)
    (hname : IsName name) (hrest : BeginsApart rest) :
  words (keyword ++ (name ++ rest)) = words keyword ++ name :: words rest
  := by
  rw [words_append, words_append_of_beginsApart hrest, words_of_isWord (isWord_of_isName hname)]
  · rfl
  · intro c hc d _
    apply continues_of_isSeparator_left (hkeyword c hc)

end Sql

namespace Statement

open Sql

variable {catalog : Catalog} {query : Query} {statement : Statement}

/-- The table in the text of a statement is that of the query. -/
theorem BuiltFrom.target?_sql (h : BuiltFrom catalog query statement) (hquery : query.WellFormed) :
  target? statement.sql = some query.table
  := by
  cases h with
  | select h =>
      obtain ⟨-, -, -, compared, -, rfl⟩ := select_eq_ok_iff.mp h
      have hread := Selection.ofText?_select hquery
      have hwords := words_select hquery.table query.columns query.joins
        (predicates 1 query.conditions) query.limit query.offset
      rw [sql, Sql.target?]
      simp only [hwords, hread]
      rfl
  | insert h =>
      obtain ⟨table, -, first, rest, rfl, -, columns, -, rows, -, rfl⟩ := insert_eq_ok_iff.mp h
      have hwords : words "INSERT INTO " = ["INSERT", "INTO"] := rfl
      rw [sql, Command.text_insert, Sql.target?]
      simp only [String.append_assoc]
      rw [words_keyword_append (by decide) hquery.table (beginsApart_mark (by decide) _), hwords]
      rfl
  | update h =>
      obtain ⟨⟨hconditions, -⟩, table, -, -, assigned, -, compared, -, rfl⟩ :=
        update_eq_ok_iff.mp h
      have hwords : words "UPDATE " = ["UPDATE"] := rfl
      rw [sql, Command.text_update, Sql.target?]
      simp only [String.append_assoc]
      rw [words_keyword_append (by decide) hquery.table (beginsApart_mark (by decide) _), hwords]
      rfl
  | delete h =>
      obtain ⟨⟨hconditions, -⟩, -, compared, -, rfl⟩ := delete_eq_ok_iff.mp h
      have hwords : words "DELETE FROM " = ["DELETE", "FROM"] := rfl
      rw [sql, Command.text_delete, Sql.target?, whereText_predicates hconditions]
      simp only [String.append_assoc]
      rw [words_keyword_append (by decide) hquery.table (beginsApart_mark (by decide) _), hwords]
      rfl

/-! ### Statements as they are read -/

/-- A statement whose tables and columns have in the text the names that they have been found
under in the catalog. A database with the given letters reads these names exactly when they
are in the form that names are read in. Labels, and the column that a change returns, are not
looked up. -/
structure NamedAsFound
    (isLetter : Char → Bool) (catalog : Catalog) (query : Query) (statement : Statement) :
    Prop extends statement.IsAccounted where
  mentions : ∀ mention ∈ statement.command.mentions,
    (∃ found, mention.FoundAs catalog (statement.command.scope query) found
      ∧ mention.names = found
      ∧ (mention.names.map (readName? isLetter) = found.map some
        ↔ ∀ name ∈ found, IsFolded isLetter name))
    ∨ (∃ name, mention = .label name) ∨ mention = .returned "id"

/-- Two statements that a database with the given letters reads to be about one table. -/
def ReadAlike (isLetter : Char → Bool) (statement other : Statement) : Prop :=
  ∃ table, readTarget? isLetter statement.sql = some table
    ∧ readTarget? isLetter other.sql = some table

/-- A statement that is built from a query has in its text the names that were found. -/
theorem BuiltFrom.namedAsFound
    (isLetter : Char → Bool) (h : BuiltFrom catalog query statement) (hquery : query.WellFormed) :
  NamedAsFound isLetter catalog query statement
  := by
  constructor
  · apply isAccounted
  · intro mention hmention
    rcases h.known hquery mention hmention with hfound | hother
    · left
      use mention.names, hfound, rfl
      apply map_readName?_eq_iff
    · right
      apply hother

/-- The table that a database reads in a statement is that of the query. -/
theorem BuiltFrom.readTarget?_sql
    (isLetter : Char → Bool) (h : BuiltFrom catalog query statement) (hquery : query.WellFormed) :
  readTarget? isLetter statement.sql = readName? isLetter query.table
  := by
  rw [Sql.readTarget?, h.target?_sql hquery, Option.bind_some]

/-- Two statements are read alike exactly when the names of their tables can be read and
differ in nothing but capital letters. -/
theorem BuiltFrom.readAlike_iff
    (isLetter : Char → Bool) {other : Query} {statement' : Statement}
    (h : BuiltFrom catalog query statement) (hquery : query.WellFormed)
    (h' : BuiltFrom catalog other statement') (hother : other.WellFormed) :
  ReadAlike isLetter statement statement'
    ↔ (beginsName isLetter query.table = true ∧ beginsName isLetter other.table = true)
      ∧ fold query.table = fold other.table
  := by
  simp only [ReadAlike, h.readTarget?_sql isLetter hquery, h'.readTarget?_sql isLetter hother,
    readName?_eq_some_iff]
  constructor
  · rintro ⟨table, ⟨hbegins, rfl⟩, hbegins', hfold⟩
    use ⟨hbegins, hbegins'⟩, hfold.symm
  · rintro ⟨⟨hbegins, hbegins'⟩, hfold⟩
    use fold query.table, ⟨hbegins, rfl⟩, hbegins', hfold.symm

/-- The tables and columns of a statement have in its text the names that they have been found
under, and they are read as these names exactly when the names begin as names do and have no
capital letters. Statements are read to be about one table exactly when the names of their
tables can be read and differ in nothing but capital letters, and so never if these are
different names in the form that names are read in. -/
theorem names_read_as_found
    {operators operators' : OperatorTable} {path path' : String} {query other : Query}
    (isLetter : Char → Bool) (catalog : Catalog)
    (hquery : Query.parsePath operators path = .ok query)
    (hother : Query.parsePath operators' path' = .ok other) :
  (∀ statement, BuiltFrom catalog query statement →
      NamedAsFound isLetter catalog query statement)
    ∧ ∀ statement statement', BuiltFrom catalog query statement →
      BuiltFrom catalog other statement' →
      (ReadAlike isLetter statement statement'
          ↔ (beginsName isLetter query.table = true ∧ beginsName isLetter other.table = true)
            ∧ fold query.table = fold other.table)
        ∧ (IsFolded isLetter query.table → IsFolded isLetter other.table →
          query.table ≠ other.table → ¬ ReadAlike isLetter statement statement')
  := by
  have hwellFormed := Query.wellFormed_of_parsePath hquery
  have hwellFormed' := Query.wellFormed_of_parsePath hother
  constructor
  · intro statement h
    apply h.namedAsFound isLetter hwellFormed
  · intro statement statement' h h'
    have halike := h.readAlike_iff isLetter hwellFormed h' hwellFormed'
    use halike
    intro hfolded hfolded' hne hread
    obtain ⟨-, heq⟩ := halike.mp hread
    rw [fold_eq_self_iff.mpr hfolded.small, fold_eq_self_iff.mpr hfolded'.small] at heq
    apply hne heq

theorem names_read_as_found_library :
  Query.parsePath .standard joinedPath = .ok joinedQuery
    ∧ Query.parsePath .standard "/authors" = .ok (.ofTable "authors")
    ∧ ∃ statement statement', select library joinedQuery = .ok statement
      ∧ select library (.ofTable "authors") = .ok statement'
      ∧ NamedAsFound Char.isAlpha library joinedQuery statement
      ∧ IsFolded Char.isAlpha "books" ∧ IsFolded Char.isAlpha "authors"
      ∧ ¬ ReadAlike Char.isAlpha statement statement'
  := by
  have hauthors : Query.parsePath .standard "/authors" = .ok (.ofTable "authors") := by
    decide +kernel
  have hfolded : IsFolded Char.isAlpha "books" ∧ IsFolded Char.isAlpha "authors" := by
    decide
  obtain ⟨hnamed, hread⟩ :=
    names_read_as_found Char.isAlpha library parsePath_joinedPath hauthors
  obtain ⟨statement, h⟩ := exists_select_joined
  obtain ⟨statement', h'⟩ : ∃ statement', select library (.ofTable "authors") = .ok statement' :=
    ⟨_, rfl⟩
  use parsePath_joinedPath, hauthors, statement, statement', h, h', hnamed statement (.select h),
    hfolded.1, hfolded.2
  apply (hread statement statement' (.select h) (.select h')).2 hfolded.1 hfolded.2
  decide

/-- A catalog with names that have a capital letter or begin with a digit. -/
def shelves : Catalog :=
  .ofTables [.ofColumns "Books" [⟨"id", .int⟩], .ofColumns "books" [⟨"id", .int⟩],
    .ofColumns "2024" [⟨"id", .int⟩]]

/-- Two tables of one catalog are read as the same table, and the name of a third one is not
read at all. -/
theorem select_read_alike :
  Query.parsePath .standard "/Books" = .ok (.ofTable "Books")
    ∧ Query.parsePath .standard "/books" = .ok (.ofTable "books")
    ∧ Query.parsePath .standard "/2024" = .ok (.ofTable "2024")
    ∧ ∃ first second third, select shelves (.ofTable "Books") = .ok first
      ∧ select shelves (.ofTable "books") = .ok second
      ∧ select shelves (.ofTable "2024") = .ok third
      ∧ first.sql = "SELECT * FROM Books" ∧ second.sql = "SELECT * FROM books"
      ∧ third.sql = "SELECT * FROM 2024"
      ∧ readTarget? Char.isAlpha first.sql = some "books"
      ∧ readTarget? Char.isAlpha second.sql = some "books"
      ∧ readTarget? Char.isAlpha third.sql = none
  := by
  refine ⟨?_, ?_, ?_, _, _, _, rfl, rfl, rfl, ?_, ?_, ?_, ?_, ?_, ?_⟩
  all_goals decide +kernel

end Statement

end TableGateway
