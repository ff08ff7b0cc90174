import TableGateway.Proofs.Outcome

/-!
# Joined texts

Texts that are joined by a separator are found again by cutting at the separator, if none
of them has it. Empty texts can be told from no texts only where there are no others. Every
text is joined of those that it is cut into.
-/

namespace TableGateway.Text

variable {α : Type} {c : α} {texts : List (List α)}

/-- A joined text has no separator if neither the texts that are joined nor what joins them
have it. -/
theorem not_mem_intercalate {d : α} (hd : c ≠ d) (h : ∀ text ∈ texts, c ∉ text) :
  c ∉ [d].intercalate texts
  := by
  induction texts with
  | nil => simp
  | cons first rest ih =>
      rw [List.forall_mem_cons] at h
      cases rest with
      | nil => simpa using h.1
      | cons second rest =>
          rw [List.intercalate_cons_cons, List.mem_append, List.mem_append, List.mem_singleton]
          rintro ((hc | hc) | hc)
          · apply h.1 hc
          · apply hd hc
          · apply ih h.2 hc

/-- Texts that stand for values have no separator if no text that stands for one has it. -/
theorem not_mem_of_forall₂
    {β : Type} {R : β → List α → Prop} (hR : ∀ x text, R x text → c ∉ text) {xs : List β}
    (h : List.Forall₂ R xs texts) :
  ∀ text ∈ texts, c ∉ text
  := by
  intro text htext
  obtain ⟨x, hx⟩ := Outcome.exists_forall₂_iff.mp ⟨xs, h.flip⟩ text htext
  apply hR x text hx

/-- Texts that are not empty are found again in the joined text. -/
theorem filter_splitOn_intercalate [DecidableEq α]
    (hne : ∀ text ∈ texts, text ≠ []) (hc : ∀ text ∈ texts, c ∉ text) :
  (([c].intercalate texts).splitOn c).filter (fun text => !text.isEmpty) = texts
  := by
  cases texts with
  | nil => simp
  | cons first rest =>
      rw [List.splitOn_intercalate c hc (List.cons_ne_nil first rest), List.filter_eq_self]
      intro text htext
      rw [Bool.not_eq_true', List.isEmpty_eq_false_iff]
      apply hne text htext

/-- Texts that are not empty are determined by the joined text. -/
theorem eq_of_intercalate_eq [DecidableEq α] {others : List (List α)}
    (hne : ∀ text ∈ texts, text ≠ []) (hc : ∀ text ∈ texts, c ∉ text)
    (hother : ∀ text ∈ others, text ≠ []) (hcother : ∀ text ∈ others, c ∉ text)
    (h : [c].intercalate texts = [c].intercalate others) :
  texts = others
  := by
  rw [← filter_splitOn_intercalate hne hc, h, filter_splitOn_intercalate hother hcother]

/-! ### Cutting at every separator -/

/-- What a text is cut into has no separator. -/
theorem not_mem_of_mem_splitOn [DecidableEq α] {text : List α} :
  ∀ part ∈ text.splitOn c, c ∉ part
  := by
  induction text with
  | nil => simp
  | cons d text ih =>
      rw [List.splitOn_cons_eq_if_modifyHead]
      split
      · rw [List.forall_mem_cons]
        use List.not_mem_nil, ih
      · rename_i hd
        obtain ⟨first, rest, hparts⟩ := List.exists_cons_of_ne_nil (List.splitOn_ne_nil c text)
        rw [hparts, List.forall_mem_cons] at ih
        rw [hparts, List.modifyHead_cons, List.forall_mem_cons, List.mem_cons, not_or]
        rw [beq_iff_eq, eq_comm] at hd
        use ⟨hd, ih.1⟩, ih.2

/-- Texts of a kind, at least one, that are joined by a separator which none of them has. -/
def Separated (c : α) (P : List α → Prop) (text : List α) : Prop :=
  ∃ parts, parts ≠ [] ∧ text = [c].intercalate parts ∧ ∀ part ∈ parts, c ∉ part ∧ P part

/-- The joined texts are those that the text is cut into. -/
theorem separated_iff [DecidableEq α] {P : List α → Prop} {text : List α} :
  Separated c P text ↔ ∀ part ∈ text.splitOn c, P part
  := by
  constructor
  · rintro ⟨parts, hne, rfl, hparts⟩
    rw [List.splitOn_intercalate c (fun part hpart => (hparts part hpart).1) hne]
    intro part hpart
    apply (hparts part hpart).2
  · intro h
    use text.splitOn c, List.splitOn_ne_nil c text, (List.intercalate_splitOn c).symm
    intro part hpart
    use not_mem_of_mem_splitOn part hpart, h part hpart

end TableGateway.Text
