import Mathlib.Data.List.SplitBy
import TableGateway.Proofs.Sql.Building

/-!
# The words of a statement

The text of a statement is read as a list of words: names and references, placeholders,
comparisons, parentheses and commas. Blanks only keep words apart.

A word ends where the next character cannot continue it. So a text is read in parts
wherever one of its separating marks stands, and each kind of part is read by itself.
-/

namespace TableGateway.Sql

/-- The characters of names and references. -/
def isWordChar (c : Char) : Bool :=
  Text.isIdentifierChar c || c == '.'

/-- The characters of comparisons. -/
def isComparisonChar (c : Char) : Bool :=
  c == '<' || c == '>' || c == '=' || c == '!'

/-- Whether a character continues the word of the character before it. -/
def continues (before c : Char) : Bool :=
  (isWordChar before || before == '$') && isWordChar c
    || isComparisonChar before && isComparisonChar c

/-- The words of a text. -/
def words (text : String) : List String :=
  ((text.toList.splitBy continues).filter (· ≠ [' '])).map String.ofList

/-! ### Reading a text in parts -/

/-- Texts that do not continue each other have their own words. -/
theorem words_append
    {first second : String}
    (h : ∀ c ∈ first.toList.getLast?, ∀ d ∈ second.toList.head?, continues c d = false) :
  words (first ++ second) = words first ++ words second
  := by
  rw [words, String.toList_append, List.splitBy_append h, List.filter_append, List.map_append]
  rfl

/-- A character that belongs to no longer word. -/
def isSeparator (c : Char) : Bool :=
  !isWordChar c && c != '$' && !isComparisonChar c

/-- No word goes on after a separator. -/
theorem continues_of_isSeparator_left {c d : Char} (h : isSeparator c = true) :
  continues c d = false
  := by
  simp only [isSeparator, Bool.and_eq_true, Bool.not_eq_true', bne_iff_ne] at h
  simp [continues, h]

/-- No word goes on into a separator. -/
theorem continues_of_isSeparator_right {c d : Char} (h : isSeparator d = true) :
  continues c d = false
  := by
  simp only [isSeparator, Bool.and_eq_true, Bool.not_eq_true', bne_iff_ne] at h
  simp [continues, h]

/-- A text that begins and ends with separating characters. -/
def IsMark (text : String) : Prop :=
  text.toList ≠ [] ∧ (∀ c ∈ text.toList.head?, isSeparator c = true)
    ∧ ∀ c ∈ text.toList.getLast?, isSeparator c = true

instance (text : String) : Decidable (IsMark text) :=
  @instDecidableAnd _ _ inferInstance
    (@instDecidableAnd _ _ (Option.decidableForallMem _) (Option.decidableForallMem _))

theorem words_append_mark {mark : String} (h : IsMark mark) (text : String) :
  words (text ++ mark) = words text ++ words mark
  := by
  apply words_append
  intro c _ d hd
  apply continues_of_isSeparator_right (h.2.1 d hd)

theorem words_mark_append {mark : String} (h : IsMark mark) (text : String) :
  words (mark ++ text) = words mark ++ words text
  := by
  apply words_append
  intro c hc d _
  apply continues_of_isSeparator_left (h.2.2 c hc)

/-- The words on the two sides of a mark are read by themselves. -/
theorem words_append_mark_append {mark : String} (h : IsMark mark) (first second : String) :
  words (first ++ mark ++ second) = words first ++ words mark ++ words second
  := by
  rw [String.append_assoc, words_append, words_mark_append h, List.append_assoc]
  intro c _ d hd
  rw [String.toList_append, List.head?_append_of_ne_nil _ h.1] at hd
  apply continues_of_isSeparator_right (h.2.1 d hd)

/-- The words of texts that are joined by a mark. -/
theorem words_intercalate {mark : String} (h : IsMark mark) (texts : List String) :
  words (mark.intercalate texts) = (words mark).intercalate (texts.map words)
  := by
  induction texts with
  | nil => rfl
  | cons first rest ih =>
      cases rest with
      | nil => simp
      | cons second rest =>
          rw [String.intercalate_cons_cons, words_append_mark_append h, ih]
          simp only [List.map_cons, List.intercalate_cons_cons]

/-! ### Single words -/

/-- A text each of whose characters continues the one before is one word. -/
theorem words_of_isChain
    {text : String} (hne : text.toList ≠ []) (hblank : text.toList ≠ [' '])
    (h : text.toList.IsChain fun c d => continues c d = true) :
  words text = [text]
  := by
  rw [words, List.splitBy_of_isChain hne h, List.filter_cons_of_pos (by simpa using hblank)]
  simp

/-- A text of one or more characters of names. -/
def IsWord (text : String) : Prop :=
  text.toList ≠ [] ∧ ∀ c ∈ text.toList, isWordChar c = true

instance (text : String) : Decidable (IsWord text) :=
  @instDecidableAnd _ _ inferInstance (List.decidableBAll _ _)

/-- The characters of a word continue each other, also after a dollar sign. -/
theorem isChain_continues {text : List Char} (h : ∀ c ∈ text, isWordChar c = true) :
  text.IsChain fun c d => continues c d = true
  := by
  apply List.Pairwise.isChain
  apply List.pairwise_of_forall_mem_list
  intro c hc d hd
  simp [continues, h c hc, h d hd]

/-- A word is its only word. -/
theorem words_of_isWord {text : String} (h : IsWord text) :
  words text = [text]
  := by
  apply words_of_isChain h.1
  · intro hblank
    have hmem := h.2 ' '
    rw [hblank] at hmem
    cases hmem List.mem_cons_self
  · apply isChain_continues h.2

theorem isWordChar_of_mem_natDigits {n : Nat} {c : Char} (h : c ∈ Number.natDigits n) :
  isWordChar c = true
  := by
  have hdigit := Number.isDigit_of_mem_natDigits h
  simp [isWordChar, Text.isIdentifierChar, Char.isAlphanum, hdigit]

theorem isWord_natText (n : Nat) :
  IsWord (Number.natText n)
  := by
  rw [IsWord, Number.natText, String.toList_ofList]
  use Number.natDigits_ne_nil n
  intro c hc
  apply isWordChar_of_mem_natDigits hc

/-- A placeholder is one word. -/
theorem words_placeholder (n : Nat) :
  words (placeholder n) = [placeholder n]
  := by
  apply words_of_isChain
  · rw [toList_placeholder]
    simp
  · rw [toList_placeholder]
    simp
  · rw [toList_placeholder, List.isChain_cons]
    constructor
    · intro c hc
      have hword := isWordChar_of_mem_natDigits (List.mem_of_mem_head? hc)
      simp [continues, hword]
    · apply isChain_continues
      intro c hc
      apply isWordChar_of_mem_natDigits hc

theorem IsWord.append {first second : String} (h : IsWord first) (hsecond : IsWord second) :
  IsWord (first ++ second)
  := by
  rw [IsWord, String.toList_append, List.forall_mem_append]
  use List.append_ne_nil_of_left_ne_nil h.1 _, h.2, hsecond.2

/-- An identifier is a word. -/
theorem isWord_of_isName {name : String} (h : IsName name) :
  IsWord name
  := by
  use h.ne_nil
  intro c hc
  rw [isWordChar, h.isIdentifierChar c hc, Bool.true_or]

/-- A reference is one word, qualified or not. -/
theorem isWord_columnText {column : ColumnRef} (h : column.IsPlain) :
  IsWord column.text
  := by
  rw [ColumnRef.text]
  split
  · rename_i qualifier hqualifier
    apply IsWord.append
    · apply IsWord.append
      · apply isWord_of_isName (h.qualifier qualifier hqualifier)
      · decide
    · apply isWord_of_isName h.name
  · apply isWord_of_isName h.name

end TableGateway.Sql
