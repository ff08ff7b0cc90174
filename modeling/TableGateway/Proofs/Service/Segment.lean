import TableGateway.Proofs.Sql.Building
import TableGateway.Service.Plan

/-!
# The segments of paths

A request about a table names it in a segment of its path, which may be any text. A segment
that is a name, or a name and a slash, names that table, and the clauses of the request are
those after its question mark and no others.

A segment that goes on with a question mark of its own after a name is cut there: what
follows the mark is read as clauses, and those of the request become a part of the last one.
Any other segment is refused.
-/

namespace TableGateway.Plan

open Outcome

/-! ### Segments -/

/-- A segment that names a table, with or without a slash after the name. -/
def Names (segment name : String) : Prop :=
  IsName name ∧ (segment = name ∨ segment = name ++ "/")

/-- A segment that names a table and goes on with a question mark and more text. -/
def HidesClauses (segment name hidden : String) : Prop :=
  ∃ resource, Names resource name ∧ segment = resource ++ "?" ++ hidden

instance (segment name : String) : Decidable (Names segment name) :=
  inferInstanceAs (Decidable (IsName name ∧ (segment = name ∨ segment = name ++ "/")))

/-- A segment that is a name has no question mark. -/
theorem Names.not_mem {segment name : String} (h : Names segment name) :
  '?' ∉ segment.toList
  := by
  obtain ⟨hname, rfl | rfl⟩ := h
  · intro hmem
    cases hname.isIdentifierChar '?' hmem
  · rw [String.toList_append, List.mem_append, not_or]
    constructor
    · intro hmem
      cases hname.isIdentifierChar '?' hmem
    · decide

/-- A segment that hides clauses has a question mark. -/
theorem HidesClauses.mem {segment name hidden : String} (h : HidesClauses segment name hidden) :
  '?' ∈ segment.toList
  := by
  obtain ⟨resource, -, rfl⟩ := h
  simp only [String.toList_append, List.mem_append]
  left
  right
  decide

theorem getLast?_toList_ne {name : String} (h : IsName name) :
  name.toList.getLast? ≠ some '/'
  := by
  intro hlast
  cases h.isIdentifierChar '/' (List.mem_of_getLast? hlast)

/-- A path names a table exactly when it is a slash and a segment that does. -/
theorem tableOfPath?_eq_some_iff {segment name : String} :
  Query.tableOfPath? ('/' :: segment.toList) = some name.toList ↔ Names segment name
  := by
  rw [Query.tableOfPath?, Option.ite_none_right_eq_some, Option.some.injEq]
  constructor
  · rintro ⟨hname, heq⟩
    rw [heq] at hname
    use hname
    split at heq
    · rename_i hlast
      obtain ⟨before, hbefore⟩ := List.getLast?_eq_some_iff.mp hlast
      right
      apply String.toList_inj.mp
      rw [String.toList_append, ← heq, hbefore, List.dropLast_concat]
      rfl
    · left
      apply String.toList_inj.mp heq
  · rintro ⟨hname, rfl | rfl⟩
    · rw [if_neg (getLast?_toList_ne hname)]
      use hname
    · have hlast : (name ++ "/").toList.getLast? = some '/' := by
        rw [String.toList_append]
        apply List.getLast?_concat
      have hdrop : (name ++ "/").toList.dropLast = name.toList := by
        rw [String.toList_append]
        apply List.dropLast_concat
      rw [if_pos hlast, hdrop]
      use hname

/-! ### The query of a request -/

/-- The refusal of a request because its path is invalid. -/
def refusal {α : Type} (segment : String) (clauses : Option String) : Except RequestError α :=
  .error (.invalidPath ("/" ++ segment ++ "?" ++ clauses.getD ""))

/-- The path of a request is cut at its first question mark. -/
theorem query_eq_of_cut
    {segment resource rest : String} (hmark : '?' ∉ resource.toList) {clauses : Option String}
    (h : segment ++ "?" ++ clauses.getD "" = resource ++ "?" ++ rest) :
  query segment clauses
    = (Query.tableOfPath? ('/' :: resource.toList)).elim (refusal segment clauses)
      fun table => Query.parse .standard (String.ofList table) rest
  := by
  have hpath : ("/" ++ segment ++ "?" ++ clauses.getD "").toList
      = ('/' :: resource.toList) ++ '?' :: rest.toList := by
    have hslash : "/" ++ segment ++ "?" ++ clauses.getD "" = "/" ++ (resource ++ "?" ++ rest) := by
      rw [← h]
      simp only [String.append_assoc]
    have hlist : "/".toList = ['/'] ∧ "?".toList = ['?'] := by decide
    simp only [hslash, String.toList_append, hlist, List.append_assoc, List.cons_append,
      List.nil_append]
  have hnone : '?' ∉ '/' :: resource.toList := by
    rw [List.mem_cons, not_or]
    use by decide
  rw [query, Query.parsePath, hpath, Text.cutAt?_append '?' _ _ hnone]
  simp only [Option.getD_some, String.ofList_toList]
  cases Query.tableOfPath? ('/' :: resource.toList) <;> rfl

/-- The query about a name has the clauses of the request. -/
theorem query_of_names
    {segment name : String} (h : Names segment name) (clauses : Option String) :
  query segment clauses = Query.parse .standard name (clauses.getD "")
  := by
  rw [query_eq_of_cut h.not_mem rfl, tableOfPath?_eq_some_iff.mpr h, Option.elim_some,
    String.ofList_toList]

/-- The query about a segment that hides clauses has these before the clauses of the request. -/
theorem query_of_hidesClauses
    {segment name hidden : String} (h : HidesClauses segment name hidden)
    (clauses : Option String) :
  query segment clauses
    = Query.parse .standard name (hidden ++ "?" ++ clauses.getD "")
  := by
  obtain ⟨resource, hresource, rfl⟩ := h
  have hcut : resource ++ "?" ++ hidden ++ "?" ++ clauses.getD ""
      = resource ++ "?" ++ (hidden ++ "?" ++ clauses.getD "") := by
    simp only [String.append_assoc]
  rw [query_eq_of_cut hresource.not_mem hcut, tableOfPath?_eq_some_iff.mpr hresource,
    Option.elim_some, String.ofList_toList]

/-- A segment that names no table, not even in front of a question mark, is refused. -/
theorem query_of_no_name
    {segment : String} (hnames : ∀ name, ¬ Names segment name)
    (hhides : ∀ name hidden, ¬ HidesClauses segment name hidden) (clauses : Option String) :
  query segment clauses = refusal segment clauses
  := by
  -- The part up to the first question mark of the path decides.
  obtain ⟨resource, rest, hmark, hcut, hresource⟩ : ∃ resource rest : String,
      '?' ∉ resource.toList
      ∧ segment ++ "?" ++ clauses.getD "" = resource ++ "?" ++ rest
      ∧ ∀ name, ¬ Names resource name := by
    cases h : Text.cutAt? '?' segment.toList with
    | none =>
        use segment, clauses.getD "", Text.cutAt?_eq_none_iff.mp h, rfl
    | some parts =>
        obtain ⟨before, after⟩ := parts
        obtain ⟨heq, hmark⟩ := Text.eq_append_of_cutAt? h
        have hsegment : segment = String.ofList before ++ "?" ++ String.ofList after := by
          apply String.toList_inj.mp
          simp only [heq, String.toList_append, String.toList_ofList]
          simp
        use String.ofList before, String.ofList after ++ "?" ++ clauses.getD ""
        refine ⟨?_, ?_, ?_⟩
        · rwa [String.toList_ofList]
        · rw [hsegment]
          simp only [String.append_assoc]
        · intro name hname
          apply hhides name (String.ofList after) ⟨_, hname, hsegment⟩
  rw [query_eq_of_cut hmark hcut]
  cases h : Query.tableOfPath? ('/' :: resource.toList) with
  | none => rfl
  | some table =>
      rw [← String.toList_ofList (l := table), tableOfPath?_eq_some_iff] at h
      cases hresource _ h

/-! ### The statement of a request -/

/-- The statements of the requests about a segment are made of one query, and that of an
insertion of another one, unless reading these has failed. -/
structure MadeOf
    (catalog : Catalog) (segment : String) (clauses : Option String) (body : Json)
    (read inserted : Except RequestError Query) : Prop where
  select : select catalog segment clauses = read >>= Statement.select catalog
  update : update catalog segment clauses body = do
    let query ← read
    let record ← Record.ofBody body
    Statement.update catalog query record
  delete : delete catalog segment clauses = read >>= Statement.delete catalog
  insert : insert catalog segment body = do
    let query ← inserted
    let records ← Record.listOfBody body
    Statement.insert catalog query.table records

/-- Insertions are made of the query without clauses, and all other statements of the query with
them. -/
theorem madeOf_query
    (catalog : Catalog) (segment : String) (clauses : Option String) (body : Json) :
  MadeOf catalog segment clauses body (query segment clauses) (query segment none)
  where
  select := rfl
  update := rfl
  delete := rfl
  insert := rfl

/-- Without clauses a request is about all rows of its table. -/
theorem parse_empty (operators : OperatorTable) (name : String) :
  Query.parse operators name "" = .ok (.ofTable name)
  := rfl

/-- What the segment of a path makes of a request about a table, whatever the catalog, the
clauses and the body. A segment that names a table leaves the query to the clauses alone, and
an insertion goes into that table. A segment that hides clauses behind a name adds them to the
query, in front of the others. Every other segment is refused as an invalid path. -/
theorem planned_by_segment
    (catalog : Catalog) (segment : String) (clauses : Option String) (body : Json) :
  (∀ name, Names segment name →
      MadeOf catalog segment clauses body
        (Query.parse .standard name (clauses.getD "")) (.ok (.ofTable name)))
    ∧ (∀ name hidden, HidesClauses segment name hidden →
      MadeOf catalog segment clauses body
        (Query.parse .standard name (hidden ++ "?" ++ clauses.getD ""))
        (Query.parse .standard name (hidden ++ "?")))
    ∧ ((∀ name, ¬ Names segment name) → (∀ name hidden, ¬ HidesClauses segment name hidden) →
      select catalog segment clauses = refusal segment clauses
        ∧ update catalog segment clauses body = refusal segment clauses
        ∧ delete catalog segment clauses = refusal segment clauses
        ∧ insert catalog segment body = refusal segment none)
  := by
  have hmade := madeOf_query catalog segment clauses body
  constructor
  · intro name hname
    rw [query_of_names hname, query_of_names hname, Option.getD_none, parse_empty] at hmade
    apply hmade
  constructor
  · intro name hidden hhidden
    rw [query_of_hidesClauses hhidden, query_of_hidesClauses hhidden, Option.getD_none,
      String.append_empty] at hmade
    apply hmade
  · intro hnames hhides
    rw [query_of_no_name hnames hhides, query_of_no_name hnames hhides] at hmade
    use hmade.select, hmade.update, hmade.delete
    apply hmade.insert

/-- The query about the rows of a table that meet a condition. -/
def rowsMeeting (table : String) (condition : Condition) : Query :=
  { Query.ofTable table with conditions := [condition] }

theorem planned_by_segment_library :
  (Names "books/" "books" ∧ ∃ statement,
      delete library "books/" (some "where=id==1") = .ok statement
      ∧ statement.sql = "DELETE FROM books WHERE id = $1 RETURNING id"
      ∧ statement.values = [.number (.integer 1)])
    ∧ (HidesClauses "books?where=id==2" "books" "where=id==2" ∧ ∃ statement,
      delete library "books?where=id==2" (some "where=id==1") = .ok statement
      ∧ statement.values = [.string "2?where=id==1"])
    ∧ delete library "books;authors" (some "where=id==1")
      = .error (.invalidPath "/books;authors?where=id==1")
  := by
  have hnames : Names "books/" "books" := by decide
  have hhides : HidesClauses "books?where=id==2" "books" "where=id==2" := by
    use "books", by decide
    rfl
  constructor
  · obtain ⟨hmade, -, -⟩ := planned_by_segment library "books/" (some "where=id==1") .null
    have hquery : Query.parse .standard "books" "where=id==1"
        = .ok (rowsMeeting "books" ⟨⟨none, "id", none⟩, .equal, ["1"], rfl⟩) := by
      decide +kernel
    use hnames
    rw [(hmade "books" hnames).delete, Option.getD_some, hquery]
    refine ⟨_, rfl, by decide +kernel, rfl⟩
  constructor
  · obtain ⟨-, hmade, -⟩ :=
      planned_by_segment library "books?where=id==2" (some "where=id==1") .null
    have hquery : Query.parse .standard "books" "where=id==2?where=id==1"
        = .ok (rowsMeeting "books" ⟨⟨none, "id", none⟩, .equal, ["2?where=id==1"], rfl⟩) := by
      decide +kernel
    have hclauses : "where=id==2" ++ "?" ++ (some "where=id==1").getD ""
        = "where=id==2?where=id==1" := by
      decide
    use hhides
    rw [(hmade "books" "where=id==2" hhides).delete, hclauses, hquery]
    refine ⟨_, rfl, rfl⟩
  · have hnone : ∀ name, ¬ Names "books;authors" name := by
      intro name h
      cases tableOfPath?_eq_some_iff.mpr h
    have hmark : ∀ name hidden, ¬ HidesClauses "books;authors" name hidden := by
      intro name hidden h
      have hmem := h.mem
      revert hmem
      decide
    obtain ⟨-, -, hrefused⟩ := planned_by_segment library "books;authors" (some "where=id==1") .null
    apply (hrefused hnone hmark).2.2.1

/-- A deletion whose segment hides a condition deletes the rows that the hidden condition
says, and the condition of the request has become a part of its value. -/
theorem delete_hidden_condition :
  (∀ name, ¬ Names "authors?where=name!=x" name)
    ∧ ∃ statement, delete library "authors?where=name!=x" (some "where=id==1") = .ok statement
      ∧ statement.sql = "DELETE FROM authors WHERE name != $1 RETURNING id"
      ∧ statement.values = [.string "x?where=id==1"]
  := by
  constructor
  · intro name h
    cases h.not_mem (by decide)
  · have hquery : query "authors?where=name!=x" (some "where=id==1")
        = .ok (rowsMeeting "authors" ⟨⟨none, "name", none⟩, .notEqual, ["x?where=id==1"], rfl⟩) := by
      decide +kernel
    rw [delete, hquery]
    refine ⟨_, rfl, ?_, ?_⟩
    · decide +kernel
    · rfl

end TableGateway.Plan
