import Mathlib.Tactic.Use
import TableGateway.Text.Ascii
import TableGateway.Text.Blank

/-!
# Texts and white space

A text without white space is its own trimmed form, and it is the trimmed form of every text
that has white space around it.
-/

namespace TableGateway.Text

/-! ### Texts without white space -/

/-- A text that has no white space. -/
def WithoutBlank (text : List Char) : Prop :=
  ∀ c ∈ text, isBlank c = false

instance (text : List Char) : Decidable (WithoutBlank text) :=
  List.decidableBAll _ _

/-- Nothing is cut off a text without blanks. -/
theorem WithoutBlank.trim_eq {text : List Char} (h : WithoutBlank text) :
  trim text = text
  := by
  apply trim_eq_self
  · intro c hc
    apply h c (List.mem_of_mem_head? hc)
  · intro c hc
    apply h c (List.mem_of_getLast? hc)

theorem withoutBlank_cons_iff {c : Char} {text : List Char} :
  WithoutBlank (c :: text) ↔ isBlank c = false ∧ WithoutBlank text
  := List.forall_mem_cons

/-- Joined texts have no blank exactly when both are without. -/
theorem withoutBlank_append_iff {text other : List Char} :
  WithoutBlank (text ++ other) ↔ WithoutBlank text ∧ WithoutBlank other
  := List.forall_mem_append

/-- The visible characters of ASCII are no blanks. -/
theorem isBlank_of_isVisible {c : Char} (h : 0x21 ≤ c.toNat ∧ c.toNat ≤ 0x7e) :
  isBlank c = false
  := by
  simp only [isBlank, Bool.or_eq_false_iff, Bool.and_eq_false_iff, decide_eq_false_iff_not,
    beq_eq_false_iff_ne]
  omega

theorem isBlank_of_isDigit {c : Char} (h : c.isDigit = true) :
  isBlank c = false
  := by
  have hzero : '0'.toNat = 0x30 := rfl
  have hnine : '9'.toNat = 0x39 := rfl
  have hdigit := Char.isDigit_iff_toNat.mp h
  apply isBlank_of_isVisible
  omega

theorem withoutBlank_takeWhile_isDigit (text : List Char) :
  WithoutBlank (text.takeWhile Char.isDigit)
  := by
  intro c hc
  apply isBlank_of_isDigit (List.all_eq_true.mp List.all_takeWhile c hc)

/-- A capital letter becomes a small letter, and neither is white space. -/
theorem isBlank_toLower (c : Char) :
  isBlank c.toLower = isBlank c
  := by
  by_cases hcapital : c.isUpper
  · have hlower := toNat_toLower hcapital
    obtain ⟨hfirst, hlast⟩ := isUpper_iff_toNat.mp hcapital
    rw [isBlank_of_isVisible (c := c) (by omega), isBlank_of_isVisible (by omega)]
  · rw [toLower_of_not_isUpper hcapital]

/-- A text has no blank if its lower case has none. -/
theorem withoutBlank_of_lower_eq
    {text word : List Char} (h : lower text = word) (hword : WithoutBlank word) :
  WithoutBlank text
  := by
  intro c hc
  rw [← isBlank_toLower]
  apply hword
  rw [← h]
  apply List.mem_map_of_mem hc

/-! ### Texts between white space -/

/-- A text with white space around a part of it. -/
def Surrounds (text part : List Char) : Prop :=
  ∃ before after, text = before ++ part ++ after ∧ (∀ c ∈ before, isBlank c = true)
    ∧ ∀ c ∈ after, isBlank c = true

/-- What is cut off at the start are blanks. -/
theorem exists_eq_append_trimStart (text : List Char) :
  ∃ before, text = before ++ trimStart text ∧ ∀ c ∈ before, isBlank c = true
  := by
  use text.takeWhile isBlank
  constructor
  · apply List.takeWhile_append_dropWhile.symm
  · apply List.all_eq_true.mp List.all_takeWhile

/-- What is cut off at the end are blanks. -/
theorem exists_eq_trimEnd_append (text : List Char) :
  ∃ after, text = trimEnd text ++ after ∧ ∀ c ∈ after, isBlank c = true
  := by
  obtain ⟨before, heq, hbefore⟩ := exists_eq_append_trimStart text.reverse
  use before.reverse
  constructor
  · rw [trimEnd, ← List.reverse_append, ← heq, List.reverse_reverse]
  · intro c hc
    apply hbefore c (List.mem_reverse.mp hc)

/-- What is cut off at both ends are blanks. -/
theorem surrounds_trim (text : List Char) :
  Surrounds text (trim text)
  := by
  obtain ⟨before, hstart, hbefore⟩ := exists_eq_append_trimStart text
  obtain ⟨after, hend, hafter⟩ := exists_eq_trimEnd_append (trimStart text)
  use before, after
  constructor
  · rw [trim, List.append_assoc, ← hend, ← hstart]
  · use hbefore, hafter

/-- Blanks in front are cut off with those that follow. -/
theorem trimStart_append {before text : List Char} (h : ∀ c ∈ before, isBlank c = true) :
  trimStart (before ++ text) = trimStart text
  := List.dropWhile_append_of_pos h

theorem trimEnd_append {text after : List Char} (h : ∀ c ∈ after, isBlank c = true) :
  trimEnd (text ++ after) = trimEnd text
  := by
  rw [trimEnd, List.reverse_append, trimStart_append]
  · rfl
  · intro c hc
    apply h c (List.mem_reverse.mp hc)

/-- White space is trimmed off a part that has none. -/
theorem Surrounds.trim_eq
    {text part : List Char} (h : Surrounds text part) (hpart : WithoutBlank part) :
  trim text = part
  := by
  obtain ⟨before, after, rfl, hbefore, hafter⟩ := h
  rw [trim, List.append_assoc, trimStart_append hbefore]
  cases part with
  | nil =>
      rw [List.nil_append, ← List.append_nil after, trimStart_append hafter]
      rfl
  | cons c rest =>
      have hfirst : trimStart ((c :: rest) ++ after) = (c :: rest) ++ after := by
        apply dropWhile_eq_self
        rintro _ ⟨⟩
        apply hpart c List.mem_cons_self
      rw [hfirst, trimEnd_append hafter]
      have hstart : trimStart (c :: rest) = c :: rest := by
        apply dropWhile_eq_self
        rintro _ ⟨⟩
        apply hpart c List.mem_cons_self
      have hwhole := hpart.trim_eq
      rw [trim, hstart] at hwhole
      apply hwhole

end TableGateway.Text
