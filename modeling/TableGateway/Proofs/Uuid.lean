import Mathlib.Tactic.Use
import TableGateway.Proofs.Outcome
import TableGateway.Proofs.Text.Blank
import TableGateway.Uuid

/-!
# Reading identifiers that are written

A universally unique identifier is read back from its text, which has no white space.
-/

namespace TableGateway.Uuid

open Outcome Text

/-! ### Digits -/

/-- A digit is read back from its character. -/
theorem digit?_hexDigit (d : Fin 16) :
  digit? (hexDigit d.val) = some d
  := by
  have hvalue : Fin.ofNat 16 d.val = d := Fin.ext (Nat.mod_eq_of_lt d.isLt)
  rw [digit?, hexValue?_hexDigit, Option.map_some, hvalue]

theorem hexDigit_ne_hyphen :
  ∀ d : Fin 16, hexDigit d.val ≠ '-'
  := by
  decide

theorem isBlank_hexDigit :
  ∀ d : Fin 16, isBlank (hexDigit d.val) = false
  := by
  decide

/-- Digits are read back from their text. -/
theorem mapM_digit?_digitsText (digits : List (Fin 16)) :
  (digitsText digits).mapM digit? = some digits
  := by
  rw [mapM_eq_some_iff, digitsText, List.forall₂_map_left_iff, List.forall₂_same]
  intro d _
  apply digit?_hexDigit

/-- An identifier is read back from its digits. -/
theorem ofDigits?_digitsText (u : Uuid) :
  ofDigits? (digitsText u.digits) = some u
  := by
  rw [ofDigits?, mapM_digit?_digitsText]
  exact dif_pos u.length_eq

/-! ### Groups -/

/-- Thirty-two digits in groups. -/
def groups (d : List Char) : List (List Char) :=
  [d.take 8, (d.drop 8).take 4, (d.drop 12).take 4, (d.drop 16).take 4, d.drop 20]

/-- The text of an identifier is its groups of digits with hyphens between them. -/
theorem text_eq_intercalate (u : Uuid) :
  u.text.toList = ['-'].intercalate (groups (digitsText u.digits))
  := by
  simp [text, groups, List.intercalate_cons_cons]

theorem take_append_drop_add (d : List Char) (before count : Nat) :
  (d.drop before).take count ++ d.drop (before + count) = d.drop before
  := by
  rw [← List.drop_drop, List.take_append_drop]

/-- Grouping loses no digit. -/
theorem flatten_groups (d : List Char) :
  (groups d).flatten = d
  := by
  have hfourth := take_append_drop_add d 16 4
  have hthird := take_append_drop_add d 12 4
  have hsecond := take_append_drop_add d 8 4
  simp only [groups, List.flatten_cons, List.flatten_nil, List.append_nil, hfourth, hthird, hsecond,
    List.take_append_drop]

theorem mem_of_mem_groups {d group : List Char} (h : group ∈ groups d) {c : Char} (hc : c ∈ group) :
  c ∈ d
  := by
  rw [← flatten_groups d]
  apply List.mem_flatten_of_mem h hc

/-- No group of digits has a hyphen in it. -/
theorem not_mem_of_mem_groups {u : Uuid} {group : List Char}
    (h : group ∈ groups (digitsText u.digits)) :
  '-' ∉ group
  := by
  intro hc
  obtain ⟨d, -, hd⟩ := List.mem_map.mp (mem_of_mem_groups h hc)
  apply hexDigit_ne_hyphen d hd

/-- Thirty-two digits between hyphens are read as digits. -/
theorem hyphenated?_of_groups {text d : List Char} (h : text.splitOn '-' = groups d)
    (hlength : d.length = 32) :
  hyphenated? text = ofDigits? d
  := by
  have hflat := flatten_groups d
  simp only [groups, List.flatten_cons, List.flatten_nil, List.append_nil] at hflat
  rw [hyphenated?, h, groups]
  dsimp only
  rw [if_pos (by simp [hlength]), List.append_assoc, List.append_assoc, List.append_assoc, hflat]

/-- An identifier is read back from its text. -/
theorem ofText?_text (u : Uuid) :
  ofText? u.text.toList = some u
  := by
  have hlength : (digitsText u.digits).length = 32 := by
    rw [digitsText, List.length_map, u.length_eq]
  have hsplit : u.text.toList.splitOn '-' = groups (digitsText u.digits) := by
    rw [text_eq_intercalate]
    apply List.splitOn_intercalate '-' (fun _ => not_mem_of_mem_groups) (List.cons_ne_nil _ _)
  have hwhole : u.text.toList.length = 36 := by
    simp [text, hlength]
  unfold ofText?
  rw [if_neg (by omega), if_pos hwhole, hyphenated?_of_groups hsplit hlength,
    ofDigits?_digitsText]

/-- The text of an identifier has no blank. -/
theorem withoutBlank_text (u : Uuid) :
  WithoutBlank u.text.toList
  := by
  have hhyphen : isBlank '-' = false := by decide
  have hgroup : ∀ group ∈ groups (digitsText u.digits), WithoutBlank group := by
    intro group hgroup c hc
    obtain ⟨d, -, rfl⟩ := List.mem_map.mp (mem_of_mem_groups hgroup hc)
    apply isBlank_hexDigit
  simp only [groups, List.forall_mem_cons] at hgroup
  simp only [text, String.toList_ofList, withoutBlank_append_iff, withoutBlank_cons_iff, hhyphen,
    hgroup, and_self]

end TableGateway.Uuid
