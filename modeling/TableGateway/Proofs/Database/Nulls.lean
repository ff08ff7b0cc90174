import TableGateway.Proofs.Binary64.Rounding
import TableGateway.Proofs.Database.Rows
import TableGateway.Proofs.Decimal.Conversion

/-!
# Nulls in rows

A row is shown as an object unless one of its cells has no JSON value. Under a name that only
one column has, the object holds a null exactly when the cell is a null, or JSON whose value is
null, or a floating-point number that is not finite.
-/

namespace TableGateway

/-! ### Finite numbers -/

namespace Binary64

/-- A rational that is not too great is rounded to a finite number. -/
theorem magnitudeOfRat_lt {r : Rat} (hr : 0 ≤ r) (hlt : r < 2 ^ (1000 : Int)) :
  magnitudeOfRat r < infinityBits
  := by
  rcases hr.lt_or_eq with hpos | rfl
  · obtain ⟨-, -, -, -, hfinite, -⟩ := exists_roundsTo hpos hlt
    have hbits : magnitudeOfRat r < 2 ^ 63 := by
      have hgreatest : infinityBits < 2 ^ 63 := by decide
      rw [magnitudeOfRat, if_neg (not_le.mpr hpos)]
      apply (Nat.min_le_right _ _).trans_lt hgreatest
    rw [ofRat, if_neg (not_lt.mpr hr), isFinite, magnitudeBits_ofMagnitude hbits] at hfinite
    apply of_decide_eq_true hfinite
  · decide +kernel

theorem isFinite_ofMagnitude {negative : Bool} {b : Nat} (h : b < infinityBits) :
  (ofMagnitude negative b).isFinite = true
  := by
  have hgreatest : infinityBits < 2 ^ 63 := by decide
  rw [isFinite, magnitudeBits_ofMagnitude (h.trans hgreatest), decide_eq_true h]

theorem isFinite_infinity (negative : Bool) :
  (infinity negative).isFinite = false
  := by
  revert negative
  decide

theorem mul_two_pow_lt {m : Nat} {e : Int} (hm : m < 2 ^ 24) (he : e ≤ 104) :
  (m : Rat) * 2 ^ e < 2 ^ (1000 : Int)
  := by
  have hm' : (m : Rat) < 2 ^ (24 : Int) := by exact_mod_cast hm
  calc (m : Rat) * 2 ^ e < 2 ^ (24 : Int) * 2 ^ e := by
        apply mul_lt_mul_of_pos_right hm'
        positivity
    _ = 2 ^ (24 + e) := by rw [zpow_add₀ (by norm_num)]
    _ ≤ 2 ^ (1000 : Int) := by
        apply zpow_le_zpow_right₀ (by norm_num)
        omega

/-- A number of thirty-two bits is finite if its exponent is not the greatest one. -/
theorem isFinite_ofBinary32_iff {bits : UInt32} :
  (ofBinary32 bits).isFinite = true ↔ bits.toNat % 2 ^ 31 / 2 ^ 23 ≠ 0xff
  := by
  rw [ofBinary32]
  dsimp only
  split
  · rename_i hgreatest
    apply iff_of_false _ (not_not_intro hgreatest)
    split
    · rw [isFinite_infinity]
      decide
    · decide
  · rename_i hexponent
    have hfraction : bits.toNat % 2 ^ 23 < 2 ^ 23 := Nat.mod_lt _ (by norm_num)
    have hless : bits.toNat % 2 ^ 31 / 2 ^ 23 < 2 ^ 8 := by omega
    apply iff_of_true _ hexponent
    apply isFinite_ofMagnitude
    apply magnitudeOfRat_lt
    · positivity
    · split
      · apply mul_two_pow_lt <;> omega
      · apply mul_two_pow_lt <;> omega

end Binary64

namespace ResultSet

/-! ### Cells -/

/-- A null, or JSON whose value is null. -/
def IsNull : Option Cell → Prop
  | none => True
  | some (.json octets) => (Text.textOfUtf8? octets).bind Json.ofText? = some .null
  | some _ => False

/-- A floating-point number that is infinite or no number. -/
def IsNotFinite : Option Cell → Prop
  | some (.real bits) => bits.toNat % 2 ^ 31 / 2 ^ 23 = 0xff
  | some (.float x) => x.isFinite = false
  | _ => False

theorem ofFloat_eq_null_iff {x : Binary64} :
  Cell.ofFloat x = .null ↔ x.isFinite = false
  := by
  rw [Cell.ofFloat, Json.ofBinary64?]
  split
  · rename_i h
    simp [h]
  · rename_i h
    simpa using h

theorem cellJson?_eq_null_iff {cell : Option Cell} :
  cellJson? cell = some .null ↔ IsNull cell ∨ IsNotFinite cell
  := by
  cases cell with
  | none => simp [cellJson?, IsNull]
  | some cell =>
      cases cell with
      | real bits =>
          have hfinite := @Binary64.isFinite_ofBinary32_iff bits
          rw [← Bool.not_eq_false] at hfinite
          simp [cellJson?, Cell.toJson?, IsNull, IsNotFinite, ofFloat_eq_null_iff,
            not_iff_not.mp hfinite]
      | float x => simp [cellJson?, Cell.toJson?, IsNull, IsNotFinite, ofFloat_eq_null_iff]
      | json octets => simp [cellJson?, Cell.toJson?, IsNull, IsNotFinite]
      | _ =>
          simp [cellJson?, Cell.toJson?, IsNull, IsNotFinite, Decimal.toJson_eq, Cell.ofChars]

/-! ### Rows -/

theorem map_fst_zip_sublist (columns : List String) (row : List (Option Cell)) :
  List.Sublist ((columns.zip row).map Prod.fst) columns
  := by
  rw [List.zip_eq_zip_take_min, List.map_fst_zip]
  · apply List.take_sublist
  · rw [List.length_take, List.length_take]
    omega

/-- Under a name that one column has there is one cell. -/
theorem eq_of_count
    {columns : List String} {row : List (Option Cell)} {name : String} {cell : Option Cell}
    (hcount : columns.count name = 1) (hcell : (name, cell) ∈ columns.zip row) :
  ∀ other ∈ columns.zip row, other.1 = name → other.2 = cell
  := by
  obtain ⟨before, after, hsplit⟩ := List.append_of_mem hcell
  have hsub := (map_fst_zip_sublist columns row).count_le name
  rw [hcount, hsplit, List.map_append, List.map_cons, List.count_append,
    List.count_cons_self] at hsub
  have hnone : ∀ other ∈ before ++ after, other.1 ≠ name := by
    intro other hother heq
    have hmem : name ∈ (before ++ after).map Prod.fst := by
      rw [← heq]
      apply List.mem_map_of_mem hother
    have hpos := List.count_pos_iff.mpr hmem
    rw [List.map_append, List.count_append] at hpos
    omega
  intro other hother hname
  rw [hsplit, List.mem_append, List.mem_cons] at hother
  rcases hother with hbefore | rfl | hafter
  · cases hnone other (List.mem_append_left _ hbefore) hname
  · rfl
  · cases hnone other (List.mem_append_right _ hafter) hname

/-- Under a name that one column has its cell is the last one. -/
theorem lookup_of_count
    {columns : List String} {row : List (Option Cell)} {name : String} {cell : Option Cell}
    (hcount : columns.count name = 1) (hcell : (name, cell) ∈ columns.zip row) :
  (columns.zip row).reverse.lookup name = some cell
  := by
  cases hlookup : (columns.zip row).reverse.lookup name with
  | none =>
      have hnone := List.lookup_eq_none_iff.mp hlookup _ (List.mem_reverse.mpr hcell)
      simp at hnone
  | some last =>
      obtain ⟨before, after, hsplit, -⟩ := List.lookup_eq_some_iff.mp hlookup
      have hlast : (name, last) ∈ columns.zip row := by
        rw [← List.mem_reverse, hsplit]
        simp
      rw [← eq_of_count hcount hcell _ hlast rfl]

/-- Either a row is not shown, because one of its cells has no JSON value, or it is shown as an
object. Under a name that only one column has, the object then holds a null exactly when the
cell holds a null or is a floating-point number that is not finite. -/
theorem nulls_shown (columns : List String) (row : List (Option Cell)) :
  (rowJson? columns row = none ∧ ∃ column ∈ columns.zip row, cellJson? column.2 = none)
    ∨ ∃ members, rowJson? columns row = some (.object members)
      ∧ ∀ name cell, (name, cell) ∈ columns.zip row → columns.count name = 1 →
          ∃ value, members.lookup name = some value
            ∧ (value = .null ↔ IsNull cell ∨ IsNotFinite cell)
  := by
  cases hrow : rowJson? columns row with
  | none =>
      left
      refine ⟨rfl, rowJson?_eq_none_iff.mp hrow⟩
  | some value =>
      right
      obtain ⟨members, hshows, rfl⟩ := exists_showsRow hrow
      use members, rfl
      intro name cell hcell hcount
      have hlookup := hshows.lookup name
      rw [lookup_of_count hcount hcell, Option.bind_some] at hlookup
      obtain ⟨value, hvalue⟩ := Option.ne_none_iff_exists'.mp (hshows.readable _ hcell)
      use value, hlookup.trans hvalue
      rw [← cellJson?_eq_null_iff, hvalue, Option.some.injEq]

/-- Of a reading whose number is missing and one whose number is zero the first is shown as a
null and the second is not. -/
theorem nulls_shown_readings :
  ["id", "before", "after"].count "before" = 1 ∧ ["id", "before", "after"].count "after" = 1
    ∧ ∃ members, rowJson? ["id", "before", "after"] [some (.integer 1), none, some (.real 0)]
        = some (.object members)
      ∧ members.lookup "before" = some .null ∧ members.lookup "after" ≠ some .null
  := by
  have hbefore : ["id", "before", "after"].count "before" = 1 := by decide
  have hafter : ["id", "before", "after"].count "after" = 1 := by decide
  refine ⟨hbefore, hafter, ?_⟩
  rcases nulls_shown ["id", "before", "after"] [some (.integer 1), none, some (.real 0)]
    with ⟨-, column, hcolumn, hcell⟩ | ⟨members, hrow, hshown⟩
  · simp only [List.zip_cons_cons, List.zip_nil_right, List.mem_cons, List.not_mem_nil,
      or_false] at hcolumn
    rcases hcolumn with rfl | rfl | rfl <;> cases hcell
  · refine ⟨members, hrow, ?_, ?_⟩
    · obtain ⟨value, hlookup, hnull⟩ := hshown "before" none (by simp) hbefore
      rw [hlookup, hnull.mpr (.inl trivial)]
    · obtain ⟨value, hlookup, hnull⟩ := hshown "after" (some (.real 0)) (by simp) hafter
      rw [hlookup, ne_eq, Option.some.injEq, hnull]
      rintro (hnone | hinfinite)
      · exact hnone
      · rw [IsNotFinite] at hinfinite
        revert hinfinite
        decide

/-- A cell that is no number is shown as a null, though it is not one. -/
theorem nan_shown_as_null :
  rowJson? ["value"] [some (.float .nan)] = some (.object [("value", .null)])
    ∧ ¬ IsNull (some (.float .nan))
  := by
  constructor
  · rfl
  · rintro ⟨⟩

end ResultSet

end TableGateway
