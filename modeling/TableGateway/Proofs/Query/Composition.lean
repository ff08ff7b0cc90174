import TableGateway.Proofs.Query.Clause
import TableGateway.Proofs.Text.Joining

/-!
# Clauses compose

The clauses of a text are read one after the other and then applied to the query about all
rows of a table. So a text that is joined of two is read as the two are, the first one first,
and the query is made of theirs: what the second one says replaces what the first one says,
but its joins are added. That a part of a query was replaced can be told from the second
query alone, since no clause leaves the part that it is about empty.

Clauses of different kinds are about different parts of a query and may be exchanged.
-/

namespace TableGateway.Query

open Outcome

/-! ### Queries one over the other -/

/-- The first query with what the second one says in place of what it says itself, but with
the joins of both, and the tables of both once each. -/
def merge (first second : Query) : Query where
  table := first.table
  tables := first.tables ++ second.tables.filter fun table => !first.includesTable table
  columns := if second.columns.isEmpty then first.columns else second.columns
  conditions := if second.conditions.isEmpty then first.conditions else second.conditions
  joins := first.joins ++ second.joins
  limit := second.limit.or first.limit
  offset := second.offset.or first.offset

/-- A query says nothing new over one with its primary table. -/
theorem merge_ofTable {query : Query} (h : query.table ∈ query.tables) :
  query.merge (ofTable query.table) = query
  := by
  have htables : query.includesTable query.table = true := by
    rw [includesTable, List.contains_iff_mem]
    apply h
  simp [merge, ofTable, htables]

/-- The table of a join is new over two queries when it is new over both. -/
theorem merge_addJoin (first second : Query) (join : Join) :
  (first.merge second).addJoin join = first.merge (second.addJoin join)
  := by
  have hjoins : first.joins ++ second.joins ++ [join] = first.joins ++ (second.joins ++ [join]) :=
    List.append_assoc ..
  by_cases hsecond : join.table ∈ second.tables
  · by_cases hfirst : join.table ∈ first.tables <;>
      simp [addJoin, merge, includesTable, hfirst, hsecond]
  · by_cases hfirst : join.table ∈ first.tables <;>
      simp [addJoin, merge, includesTable, hfirst, hsecond]

/-- A clause that does not leave the part that it is about empty. -/
def Clause.IsFilled : Clause → Prop
  | filter conditions => conditions ≠ []
  | select columns => columns ≠ []
  | join _ | limit _ | offset _ => True

/-- A clause over two queries is a clause over the second one. -/
theorem merge_apply (first second : Query) {clause : Clause} (h : clause.IsFilled) :
  (first.merge second).apply clause = first.merge (second.apply clause)
  := by
  cases clause with
  | filter conditions =>
      rw [Clause.IsFilled] at h
      simp [apply, merge, h]
  | select columns =>
      rw [Clause.IsFilled] at h
      simp [apply, merge, h]
  | limit rows => simp [apply, merge]
  | offset rows => simp [apply, merge]
  | join joins =>
      rw [apply, apply]
      clear h
      induction joins generalizing second with
      | nil => rfl
      | cons join rest ih => rw [List.foldl_cons, List.foldl_cons, merge_addJoin, ih]

theorem merge_foldl_apply
    (first second : Query) {clauses : List Clause} (h : ∀ clause ∈ clauses, clause.IsFilled) :
  clauses.foldl apply (first.merge second) = first.merge (clauses.foldl apply second)
  := by
  induction clauses generalizing second with
  | nil => rfl
  | cons clause rest ih =>
      rw [List.forall_mem_cons] at h
      rw [List.foldl_cons, List.foldl_cons, merge_apply first second h.1, ih _ h.2]

/-- A query keeps its primary table among its tables. -/
theorem table_mem_tables_foldl_apply
    {query : Query} (h : query.table ∈ query.tables) (clauses : List Clause) :
  (clauses.foldl apply query).table ∈ (clauses.foldl apply query).tables
  := by
  rw [table_foldl_apply]
  generalize query.table = table at h
  induction clauses generalizing query with
  | nil => apply h
  | cons clause rest ih =>
      rw [List.foldl_cons]
      apply ih
      cases clause with
      | filter conditions => apply h
      | select columns => apply h
      | limit rows => apply h
      | offset rows => apply h
      | join joins =>
          rw [apply]
          induction joins generalizing query with
          | nil => apply h
          | cons join joins ihjoins =>
              rw [List.foldl_cons]
              apply ihjoins
              rw [addJoin]
              split
              · apply h
              · apply List.mem_append_left _ h

/-- Clauses after others make the query that they make by themselves, over the one that the
others make. -/
theorem foldl_apply_append
    (table : String) (clauses : List Clause) {others : List Clause}
    (h : ∀ clause ∈ others, clause.IsFilled) :
  (clauses ++ others).foldl apply (ofTable table)
    = (clauses.foldl apply (ofTable table)).merge (others.foldl apply (ofTable table))
  := by
  have hmem : (clauses.foldl apply (ofTable table)).table
      ∈ (clauses.foldl apply (ofTable table)).tables :=
    table_mem_tables_foldl_apply List.mem_cons_self clauses
  have htable : (clauses.foldl apply (ofTable table)).table = table :=
    table_foldl_apply (ofTable table) clauses
  have hfirst := merge_ofTable hmem
  rw [htable] at hfirst
  rw [List.foldl_append, ← merge_foldl_apply _ _ h, hfirst]

/-! ### Clauses of different kinds -/

/-- The kinds of clauses. -/
inductive ClauseKind where
  | filter
  | select
  | join
  | limit
  | offset
  deriving DecidableEq

/-- The kind of a clause. -/
def Clause.kind : Clause → ClauseKind
  | filter _ => .filter
  | select _ => .select
  | join _ => .join
  | limit _ => .limit
  | offset _ => .offset

/-- The kind of the clauses with a given keyword. -/
def ClauseKind.ofKeyword? (keyword : String) : Option ClauseKind :=
  if keyword = "where" ∨ keyword = "filter" then some filter
  else if keyword = "select" ∨ keyword = "fields" then some select
  else if keyword = "limit" then some limit
  else if keyword = "offset" then some offset
  else (JoinKind.ofKeyword? keyword).map fun _ => join

/-- The kind of clause that a text begins as. -/
def clauseKind? (text : List Char) : Option ClauseKind :=
  (Text.cutAt? '=' text).bind fun (keyword, _) => ClauseKind.ofKeyword? (String.ofList keyword)

/-- Joins and a clause about anything else may be exchanged. -/
theorem apply_comm_join
    {clause : Clause} (h : clause.kind ≠ .join) (joins : List Join) (query : Query) :
  (query.apply clause).apply (.join joins) = (query.apply (.join joins)).apply clause
  := by
  rw [apply, apply]
  induction joins generalizing query with
  | nil => rfl
  | cons join rest ih =>
      have hadd : (query.apply clause).addJoin join = (query.addJoin join).apply clause := by
        cases clause with
        | join joins => cases h rfl
        | filter conditions => rfl
        | select columns => rfl
        | limit rows => rfl
        | offset rows => rfl
      rw [List.foldl_cons, List.foldl_cons, hadd, ih]

/-- Clauses of different kinds may be exchanged. -/
theorem apply_comm {clause other : Clause} (h : clause.kind ≠ other.kind) (query : Query) :
  (query.apply clause).apply other = (query.apply other).apply clause
  := by
  cases clause with
  | join joins => rw [apply_comm_join h.symm]
  | filter conditions =>
      cases other with
      | join joins => rw [apply_comm_join h]
      | filter conditions => cases h rfl
      | select columns => rfl
      | limit rows => rfl
      | offset rows => rfl
  | select columns =>
      cases other with
      | join joins => rw [apply_comm_join h]
      | select columns => cases h rfl
      | filter conditions => rfl
      | limit rows => rfl
      | offset rows => rfl
  | limit rows =>
      cases other with
      | join joins => rw [apply_comm_join h]
      | limit rows => cases h rfl
      | filter conditions => rfl
      | select columns => rfl
      | offset rows => rfl
  | offset rows =>
      cases other with
      | join joins => rw [apply_comm_join h]
      | offset rows => cases h rfl
      | filter conditions => rfl
      | select columns => rfl
      | limit rows => rfl

/-! ### Reading clauses -/

theorem ne_nil_of_mapM_splitOn
    {β : Type} {c : Char} {text : List Char} {f : List Char → Except RequestError β}
    {parts : List β} (h : (text.splitOn c).mapM f = .ok parts) :
  parts ≠ []
  := by
  rintro rfl
  apply List.splitOn_ne_nil c text
  apply List.forall₂_nil_right_iff.mp (mapM_eq_ok_iff.mp h)

theorem isFilled_of_readsValue
    {operators : OperatorTable} {keyword : String} {value : List Char} {clause : Clause}
    (h : ReadsValue operators keyword value clause) :
  clause.IsFilled
  := by
  cases h with
  | filter _ h => apply ne_nil_of_mapM_splitOn h
  | select _ h => apply ne_nil_of_mapM_splitOn h
  | join => trivial
  | limit => trivial
  | offset => trivial

theorem ofKeyword?_of_readsValue
    {operators : OperatorTable} {keyword : String} {value : List Char} {clause : Clause}
    (h : ReadsValue operators keyword value clause) :
  ClauseKind.ofKeyword? keyword = some clause.kind
  := by
  cases h with
  | filter hkeyword _ => rcases hkeyword with rfl | rfl <;> rfl
  | select hkeyword _ => rcases hkeyword with rfl | rfl <;> rfl
  | @join kind => cases kind <;> rfl
  | limit => rfl
  | offset => rfl

/-- No clause that is read leaves the part that it is about empty, since a text is cut into at
least one part. -/
theorem isFilled_of_parseClause
    {operators : OperatorTable} {text : List Char} {clause : Clause}
    (h : parseClause operators text = .ok clause) :
  clause.IsFilled
  := by
  obtain ⟨_, _, -, hreads⟩ := parseClause_eq_ok_iff.mp h
  apply isFilled_of_readsValue hreads

/-- A clause is of the kind that its text begins as. -/
theorem clauseKind?_of_parseClause
    {operators : OperatorTable} {text : List Char} {clause : Clause}
    (h : parseClause operators text = .ok clause) :
  clauseKind? text = some clause.kind
  := by
  obtain ⟨_, _, hcut, hreads⟩ := parseClause_eq_ok_iff.mp h
  rw [clauseKind?, hcut]
  apply ofKeyword?_of_readsValue hreads

/-- A query is read by reading its clauses, of which the first one that cannot be read is the
error, and applying them. -/
theorem parse_eq (operators : OperatorTable) (table text : String) :
  parse operators table text
    = (fun clauses => clauses.foldl apply (ofTable table))
      <$> (clauseTexts text.toList).mapM (parseClause operators)
  := foldlM_apply_eq operators (clauseTexts text.toList) (ofTable table)

theorem clauseTexts_append (first second : List Char) :
  clauseTexts (first ++ '&' :: second) = clauseTexts first ++ clauseTexts second
  := by
  rw [clauseTexts, List.splitOn_append_cons_self, List.filter_append, clauseTexts, clauseTexts]

theorem clauseTexts_of_not_mem {text : List Char} (h : '&' ∉ text) :
  clauseTexts text = if text.isEmpty then [] else [text]
  := by
  rw [clauseTexts, List.splitOn_eq_singleton h]
  cases text <;> rfl

theorem clauseTexts_intercalate_eq_flatMap (texts : List (List Char)) :
  clauseTexts (['&'].intercalate texts) = texts.flatMap clauseTexts
  := by
  induction texts with
  | nil => rfl
  | cons text rest ih =>
      cases rest with
      | nil => simp
      | cons other rest =>
          rw [List.intercalate_cons_cons, List.append_assoc, List.singleton_append,
            clauseTexts_append, ih]
          rfl

/-- A joined text is read as its parts are, the first one first, and the queries are merged. -/
theorem parse_append (operators : OperatorTable) (table first second : String) :
  parse operators table (first ++ "&" ++ second) = (do
    let query ← parse operators table first
    let other ← parse operators table second
    return query.merge other)
  := by
  have htext : (first ++ "&" ++ second).toList = first.toList ++ '&' :: second.toList := by
    simp
  rw [parse_eq, parse_eq, parse_eq, htext, clauseTexts_append, List.mapM_append]
  cases (clauseTexts first.toList).mapM (parseClause operators) with
  | error e => rfl
  | ok clauses =>
      cases hothers : (clauseTexts second.toList).mapM (parseClause operators) with
      | error e => rfl
      | ok others =>
          have hfilled : ∀ clause ∈ others, clause.IsFilled :=
            forall_mem_of_mapM (fun _ _ => isFilled_of_parseClause) hothers
          apply congrArg Except.ok (foldl_apply_append table clauses hfilled)

/-! ### Exchanging neighbouring clauses -/

/-- The values of two neighbouring elements may be exchanged with them. -/
theorem mapM_exchange
    {ε α β : Type} {f : α → Except ε β} {before after : List α} {x y : α} {zs : List β}
    (h : (before ++ x :: y :: after).mapM f = .ok zs) :
  ∃ front first second back, f x = .ok first ∧ f y = .ok second
    ∧ zs = front ++ first :: second :: back
    ∧ (before ++ y :: x :: after).mapM f = .ok (front ++ second :: first :: back)
  := by
  simp only [List.mapM_append, List.mapM_cons, bind_eq_ok_iff, pure_eq_ok_iff] at h
  obtain ⟨front, hfront, _, ⟨first, hfirst, _, ⟨second, hsecond, back, hback, rfl⟩, rfl⟩, rfl⟩ := h
  use front, first, second, back, hfirst, hsecond, rfl
  simp only [List.mapM_append, List.mapM_cons, hfront, hfirst, hsecond, hback]
  rfl

theorem foldl_apply_exchange
    (front back : List Clause) {first second : Clause} (h : first.kind ≠ second.kind)
    (query : Query) :
  (front ++ first :: second :: back).foldl apply query
    = (front ++ second :: first :: back).foldl apply query
  := by
  simp only [List.foldl_append, List.foldl_cons, apply_comm h]

/-- Two neighbouring clauses whose texts begin as clauses of different kinds may be
exchanged. -/
theorem parse_exchange
    {operators : OperatorTable} {table : String} {before after : List String} {x y : String}
    (hx : '&' ∉ x.toList) (hy : '&' ∉ y.toList)
    (hkind : clauseKind? x.toList ≠ clauseKind? y.toList) {query : Query}
    (h : parse operators table ("&".intercalate (before ++ x :: y :: after)) = .ok query) :
  parse operators table ("&".intercalate (before ++ y :: x :: after)) = .ok query
  := by
  have htexts : ∀ texts : List String, clauseTexts ("&".intercalate texts).toList
      = texts.flatMap fun text => clauseTexts text.toList := by
    intro texts
    rw [String.toList_intercalate]
    apply Eq.trans (clauseTexts_intercalate_eq_flatMap _)
    rw [List.flatMap_map]
  rw [parse_eq, htexts] at h ⊢
  simp only [List.flatMap_append, List.flatMap_cons, clauseTexts_of_not_mem hx,
    clauseTexts_of_not_mem hy] at h ⊢
  split at h
  · rename_i hempty
    rw [if_pos hempty]
    apply h
  · rename_i hxne
    rw [if_neg hxne]
    split at h
    · rename_i hempty
      rw [if_pos hempty]
      apply h
    · rename_i hyne
      rw [if_neg hyne]
      obtain ⟨clauses, hclauses, rfl⟩ := map_eq_ok_iff.mp h
      obtain ⟨front, first, second, back, hfirst, hsecond, rfl, hexchanged⟩ :=
        mapM_exchange hclauses
      apply map_eq_ok_iff.mpr
      use front ++ second :: first :: back, hexchanged
      symm
      apply foldl_apply_exchange
      intro hsame
      apply hkind
      rw [clauseKind?_of_parseClause hfirst, clauseKind?_of_parseClause hsecond, hsame]

/-! ### Composition -/

/-- For every table of operators, a text that is joined of two fails with the error of the
first one, or else with the error of the second one, or else gives the query that merges
theirs. So exchanging two neighbouring clauses of different kinds changes no query that is
read. -/
theorem parse_composes (operators : OperatorTable) (table : String) :
  (∀ first second,
    parse operators table (first ++ "&" ++ second)
      = match parse operators table first, parse operators table second with
        | .error e, _ => .error e
        | .ok _, .error e => .error e
        | .ok query, .ok other => .ok (query.merge other))
    ∧ ∀ (before after : List String) (x y : String) (query : Query),
      '&' ∉ x.toList → '&' ∉ y.toList → clauseKind? x.toList ≠ clauseKind? y.toList →
      parse operators table ("&".intercalate (before ++ x :: y :: after)) = .ok query →
      parse operators table ("&".intercalate (before ++ y :: x :: after)) = .ok query
  := by
  constructor
  · intro first second
    rw [parse_append]
    cases parse operators table first with
    | error e => rfl
    | ok query => cases parse operators table second <;> rfl
  · intro before after x y query hx hy hkind h
    apply parse_exchange hx hy hkind h

/-- A text with two filters, of which the second one counts, and two joins. -/
def composedTexts : List String :=
  ["where=id==1", "join=authors:books.author==authors.id", "limit=2", "",
    "filter=authors.died=na=;id=in=1,2", "left_join=authors:authors.id==books.editor"]

/-- The first filter and the first join may change places. A limit that is no number is the error
of a text in which a clause of no kind comes after it. -/
theorem parse_composes_books :
  ∃ query, parse .standard "books" ("&".intercalate composedTexts) = .ok query
    ∧ query.conditions.map Condition.operator = [.isNull, .oneOf]
    ∧ query.tables = ["books", "authors"]
    ∧ query.joins.length = 2
    ∧ parse .standard "books" ("&".intercalate
      (["join=authors:books.author==authors.id", "where=id==1"] ++ composedTexts.drop 2))
      = .ok query
    ∧ parse .standard "books" ("limit=x" ++ "&" ++ "order=id")
      = .error (.invalidNumber .limit "x")
  := by
  have h : (fun query => (query.conditions.map Condition.operator, query.tables,
        query.joins.length)) <$> parse .standard "books" ("&".intercalate composedTexts)
      = .ok ([.isNull, .oneOf], ["books", "authors"], 2) := by
    decide +kernel
  obtain ⟨query, hquery, hparts⟩ := map_eq_ok_iff.mp h
  obtain ⟨hoperators, hrest⟩ := Prod.mk.inj hparts
  obtain ⟨htables, hjoins⟩ := Prod.mk.inj hrest
  obtain ⟨hmerge, hexchange⟩ := parse_composes .standard "books"
  use query, hquery, hoperators, htables, hjoins
  constructor
  · apply hexchange [] (composedTexts.drop 2) _ _ query (by decide) (by decide) (by decide) hquery
  · have hfirst : parse .standard "books" "limit=x" = .error (.invalidNumber .limit "x") := by
      decide +kernel
    rw [hmerge, hfirst]

end TableGateway.Query
