import TableGateway.Database.ResultSet
import TableGateway.Proofs.NameOrder
import TableGateway.Proofs.Outcome

/-!
# Rows that are shown

A row is shown as an object unless one of its cells has no JSON value. The names of its columns
stand in the object in increasing order, and under each name the value of the last cell in a
column of that name. The id of a row is the value under the name `id`, or a null.
-/

namespace TableGateway

open Outcome

/-- Under a name the last of the elements with that name is looked up after they are collected. -/
theorem NameOrder.lookup_collect {β : Type} (fields : List (String × β)) (key : String) :
  (collect Prod.fst fields).lookup key = fields.reverse.lookup key
  := by
  apply Option.ext
  intro value
  rw [lookup_eq_some_iff (pairwise_collect fields), mem_collect_iff, List.lookup_eq_some_iff]
  constructor
  · rintro ⟨before, after, rfl, hafter⟩
    use after.reverse, before.reverse
    constructor
    · simp
    · intro other hother
      apply bne_iff_ne.mpr (hafter other (List.mem_reverse.mp hother)).symm
  · rintro ⟨after, before, hsplit, hafter⟩
    use before.reverse, after.reverse
    constructor
    · rw [List.reverse_eq_iff.mp hsplit]
      simp
    · intro other hother
      apply (bne_iff_ne.mp (hafter other (List.mem_reverse.mp hother))).symm

namespace ResultSet

/-! ### Members of a row -/

/-- The members of a row: the name and the JSON value of each cell. -/
def IsMember (column : String × Option Cell) (member : String × Json) : Prop :=
  cellJson? column.2 = some member.2 ∧ member.1 = column.1

theorem memberOf_eq_some_iff {column : String × Option Cell} {member : String × Json} :
  (cellJson? column.2).map (column.1, ·) = some member ↔ IsMember column member
  := by
  rw [IsMember, Option.map_eq_some_iff]
  constructor
  · rintro ⟨value, hvalue, rfl⟩
    exact ⟨hvalue, rfl⟩
  · rintro ⟨hvalue, hname⟩
    use member.2, hvalue
    rw [← hname]

/-- The value under a name is that of the cell under it. -/
theorem lookup_of_forall₂
    {columns : List (String × Option Cell)} {members : List (String × Json)}
    (h : List.Forall₂ IsMember columns members) (name : String) :
  members.lookup name = (columns.lookup name).bind cellJson?
  := by
  induction h with
  | nil => rfl
  | @cons column member _ _ hmember _ ih =>
      rw [List.lookup_cons, List.lookup_cons, hmember.2]
      split
      · rw [Option.bind_some, hmember.1]
      · apply ih

/-! ### The object of a row -/

/-- A row with the given columns is shown as the object with these members: each cell has a JSON
value, the names of the members increase, and under each name stands the value of the last cell
in a column of that name. -/
structure ShowsRow
    (columns : List String) (row : List (Option Cell)) (members : List (String × Json)) :
    Prop where
  readable : ∀ column ∈ columns.zip row, cellJson? column.2 ≠ none
  sorted : members.Pairwise (·.1 < ·.1)
  lookup : ∀ name, members.lookup name = ((columns.zip row).reverse.lookup name).bind cellJson?

/-- A row is shown as one object. -/
theorem ShowsRow.unique
    {columns : List String} {row : List (Option Cell)} {members others : List (String × Json)}
    (h : ShowsRow columns row members) (hothers : ShowsRow columns row others) :
  members = others
  := by
  apply NameOrder.eq_of_mem_iff h.sorted hothers.sorted
  rintro ⟨name, value⟩
  rw [← NameOrder.lookup_eq_some_iff h.sorted, ← NameOrder.lookup_eq_some_iff hothers.sorted,
    h.lookup, hothers.lookup]

theorem showsRow_collect
    {columns : List String} {row : List (Option Cell)} {members : List (String × Json)}
    (h : List.Forall₂ IsMember (columns.zip row) members) :
  ShowsRow columns row (NameOrder.collect Prod.fst members)
  := by
  constructor
  · intro column hcolumn
    obtain ⟨member, hmember⟩ := exists_forall₂_iff.mp ⟨members, h⟩ column hcolumn
    rw [hmember.1]
    apply Option.some_ne_none
  · apply NameOrder.pairwise_collect
  · intro name
    rw [NameOrder.lookup_collect]
    apply lookup_of_forall₂ (List.forall₂_reverse_iff.mpr h)

/-- A row is not shown exactly when one of its cells has no JSON value. -/
theorem rowJson?_eq_none_iff {columns : List String} {row : List (Option Cell)} :
  rowJson? columns row = none ↔ ∃ column ∈ columns.zip row, cellJson? column.2 = none
  := by
  have hnone := @mapM_eq_none_iff _ _
    (fun (column : String × Option Cell) => (cellJson? column.2).map (column.1, ·))
    (columns.zip row)
  simp only [Option.map_eq_none_iff] at hnone
  rw [← hnone, rowJson?]
  cases (columns.zip row).mapM
      (fun (column : String × Option Cell) => (cellJson? column.2).map (column.1, ·)) with
  | none => simp
  | some members => simp

/-- A row that is shown is shown as an object. -/
theorem exists_showsRow
    {columns : List String} {row : List (Option Cell)} {value : Json}
    (h : rowJson? columns row = some value) :
  ∃ members, ShowsRow columns row members ∧ value = .object members
  := by
  rw [rowJson?, Option.bind_eq_bind, Option.bind_eq_some_iff] at h
  simp only [mapM_eq_some_iff, memberOf_eq_some_iff] at h
  obtain ⟨members, hmembers, hvalue⟩ := h
  use NameOrder.collect Prod.fst members, showsRow_collect hmembers
  cases hvalue
  rfl

/-! ### Ids of rows -/

/-- The id of an object: the value under the name `id`, or a null where that name is missing. -/
inductive HasId (members : List (String × Json)) : Json → Prop where
  | found {value : Json} (h : ("id", value) ∈ members) : HasId members value
  | missing (h : ∀ value, ("id", value) ∉ members) : HasId members .null

/-- The id of a row is that of its object. -/
def ShowsId (columns : List String) (row : List (Option Cell)) (id : Json) : Prop :=
  ∃ members, ShowsRow columns row members ∧ HasId members id

/-- The id that is taken from the object of a row is the id of the object. -/
theorem ShowsRow.hasId_idOf
    {columns : List String} {row : List (Option Cell)} {members : List (String × Json)}
    (h : ShowsRow columns row members) :
  HasId members (idOf (.object members))
  := by
  have hmem := @NameOrder.lookup_eq_some_iff _ _ h.sorted "id"
  rw [idOf]
  cases hlookup : members.lookup "id" with
  | none =>
      apply HasId.missing
      intro value hvalue
      rw [← hmem, hlookup] at hvalue
      cases hvalue
  | some value => apply HasId.found (hmem.mp hlookup)

/-- A row has one id. -/
theorem ShowsId.unique
    {columns : List String} {row : List (Option Cell)} {id other : Json}
    (h : ShowsId columns row id) (hother : ShowsId columns row other) :
  id = other
  := by
  obtain ⟨members, hmembers, hid⟩ := h
  obtain ⟨others, hothers, hother⟩ := hother
  obtain rfl := hmembers.unique hothers
  cases hid with
  | found hvalue =>
      cases hother with
      | found hvalue' =>
          rw [← NameOrder.lookup_eq_some_iff hmembers.sorted] at hvalue hvalue'
          rw [hvalue] at hvalue'
          apply Option.some.inj hvalue'
      | missing hnone => cases hnone _ hvalue
  | missing hnone =>
      cases hother with
      | found hvalue => cases hnone _ hvalue
      | missing _ => rfl

/-- The rows that are read are the objects of the rows of the reply, in order. -/
theorem exists_shows_of_rowsJson?
    {results : ResultSet} {rows : List Json} (h : results.rowsJson? = some rows) :
  ∃ objects, List.Forall₂ (ShowsRow results.columns) results.rows objects
    ∧ rows = objects.map .object
  := by
  rw [rowsJson?, mapM_eq_some_iff] at h
  generalize results.rows = given at h ⊢
  induction h with
  | nil => exact ⟨[], .nil, rfl⟩
  | cons hrow _ ih =>
      obtain ⟨members, hmembers, rfl⟩ := exists_showsRow hrow
      obtain ⟨objects, hobjects, rfl⟩ := ih
      exact ⟨members :: objects, .cons hmembers hobjects, rfl⟩

/-- The ids that are read are those of the rows of the reply, in order. -/
theorem showsId_of_idsJson?
    {results : ResultSet} {ids : List Json} (h : results.idsJson? = some ids) :
  List.Forall₂ (ShowsId results.columns) results.rows ids
  := by
  obtain ⟨rows, hrows, rfl⟩ := Option.map_eq_some_iff.mp h
  obtain ⟨objects, hobjects, rfl⟩ := exists_shows_of_rowsJson? hrows
  rw [List.map_map, List.forall₂_map_right_iff]
  apply hobjects.imp
  intro row members hmembers
  use members, hmembers, hmembers.hasId_idOf

end ResultSet

end TableGateway
