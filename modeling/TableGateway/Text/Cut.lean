/-!
# Cutting text

A text is a list of characters. It is cut at the first occurrence of a separator, which may be one
character or a word; cutting at every occurrence is `List.splitOn`.
-/

namespace TableGateway.Text

/-- The texts before and after the first character `separator`. -/
def cutAt? (separator : Char) : List Char → Option (List Char × List Char)
  | [] => none
  | c :: rest =>
    if c = separator then
      some ([], rest)
    else
      (cutAt? separator rest).map fun (before, after) => (c :: before, after)

/-- A text is cut at a separator before which there is no other. -/
theorem cutAt?_append (separator : Char) (before after : List Char) (h : separator ∉ before) :
  cutAt? separator (before ++ separator :: after) = some (before, after)
  := by
  induction before with
  | nil => simp [cutAt?]
  | cons c rest ih =>
    simp only [List.mem_cons, not_or] at h
    simp [cutAt?, Ne.symm h.1, ih h.2]

/-- The parts and the separator between them make up the text that is cut. -/
theorem eq_append_of_cutAt?
    {separator : Char} {text before after : List Char}
    (h : cutAt? separator text = some (before, after)) :
  text = before ++ separator :: after ∧ separator ∉ before
  := by
  induction text generalizing before with
  | nil => simp [cutAt?] at h
  | cons c rest ih =>
    by_cases hc : c = separator
    · simp only [cutAt?, hc, ↓reduceIte, Option.some.injEq, Prod.mk.injEq] at h
      simp [← h.1, ← h.2, hc]
    · simp only [cutAt?, hc, ↓reduceIte, Option.map_eq_some_iff, Prod.exists, Prod.mk.injEq] at h
      obtain ⟨b, a, hba, rfl, rfl⟩ := h
      obtain ⟨rfl, hb⟩ := ih hba
      simp [hb, Ne.symm hc]

/-- Only a text without the separator is not cut. -/
theorem cutAt?_eq_none_iff {separator : Char} {text : List Char} :
  cutAt? separator text = none ↔ separator ∉ text
  := by
  induction text with
  | nil => simp [cutAt?]
  | cons c rest ih =>
    by_cases hc : c = separator
    · simp [cutAt?, hc]
    · simp [cutAt?, hc, ih, Ne.symm hc]

/-- The texts before and after the first occurrence of `word`. -/
def cutAtWord? (word : List Char) : List Char → Option (List Char × List Char)
  | [] => if word.isEmpty then some ([], []) else none
  | c :: rest =>
    if word.isPrefixOf (c :: rest) then
      some ([], (c :: rest).drop word.length)
    else
      (cutAtWord? word rest).map fun (before, after) => (c :: before, after)

/-- The parts and the word between them make up the text that is cut. -/
theorem eq_append_of_cutAtWord?
    {word text before after : List Char} (h : cutAtWord? word text = some (before, after)) :
  text = before ++ word ++ after
  := by
  induction text generalizing before with
  | nil =>
    cases word with
    | nil => simp_all [cutAtWord?]
    | cons w ws => simp [cutAtWord?] at h
  | cons c rest ih =>
    by_cases hw : word.isPrefixOf (c :: rest)
    · simp only [cutAtWord?, hw, ↓reduceIte, Option.some.injEq, Prod.mk.injEq] at h
      obtain ⟨suffix, hs⟩ := List.isPrefixOf_iff_prefix.1 hw
      simp [← h.1, ← h.2, ← hs]
    · simp only [cutAtWord?, hw, Bool.false_eq_true, ↓reduceIte, Option.map_eq_some_iff,
        Prod.exists, Prod.mk.injEq] at h
      obtain ⟨b, a, hba, rfl, rfl⟩ := h
      simp [ih hba]

/-- The text without the word it starts with. -/
def dropWord? (word text : List Char) : Option (List Char) :=
  if word.isPrefixOf text then some (text.drop word.length) else none

end TableGateway.Text
