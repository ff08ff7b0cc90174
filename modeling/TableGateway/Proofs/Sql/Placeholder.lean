import TableGateway.Proofs.Query.WellFormed
import TableGateway.Sql.Statement

/-!
# Reading placeholders

The numbers of the placeholders of a text are read after its dollar signs. A text has
certain numbers when these are read from it in front of every text that cannot prolong its
last number; such texts can be put together wherever the second part does not begin with
a digit, or the first one has no dollar sign.

The text of a command has the numbers of its arguments, in the order in which the command
lists them, provided that its names are without dollar signs.
-/

namespace TableGateway.Sql

/-- The numbers that are read after the dollar signs of a text, from left to right; no
number is read where no digit follows. -/
def dollarNumbers : List Char → List (Option Nat)
  | [] => []
  | c :: rest =>
    if c = '$' then
      Number.natOfDigits? (rest.takeWhile Char.isDigit) :: dollarNumbers rest
    else
      dollarNumbers rest

/-- A text in which there is no dollar sign. -/
def WithoutDollar (text : String) : Prop :=
  '$' ∉ text.toList

instance (text : String) : Decidable (WithoutDollar text) :=
  inferInstanceAs (Decidable ('$' ∉ text.toList))

/-- Joined texts have no dollar sign exactly when both are without. -/
theorem withoutDollar_append_iff {first second : String} :
  WithoutDollar (first ++ second) ↔ WithoutDollar first ∧ WithoutDollar second
  := by
  rw [WithoutDollar, String.toList_append, List.mem_append, not_or]
  rfl

theorem WithoutDollar.append {first second : String}
    (h : WithoutDollar first) (hsecond : WithoutDollar second) :
  WithoutDollar (first ++ second)
  := withoutDollar_append_iff.mpr ⟨h, hsecond⟩

/-- Texts without dollar signs are joined to one by a separator without. -/
theorem WithoutDollar.intercalate
    {separator : String} (hseparator : WithoutDollar separator)
    {texts : List String} (h : ∀ text ∈ texts, WithoutDollar text) :
  WithoutDollar (separator.intercalate texts)
  := by
  induction texts with
  | nil => simp [WithoutDollar]
  | cons first rest ih =>
      rw [List.forall_mem_cons] at h
      cases rest with
      | nil => simpa using h.1
      | cons second rest =>
          rw [String.intercalate_cons_cons, String.append_assoc]
          apply h.1.append
          apply hseparator.append
          apply ih h.2

/-- A text that cannot prolong a number in front of it. -/
def EndsNumber (text : List Char) : Prop :=
  ∀ c ∈ text.head?, c.isDigit = false

instance (text : List Char) : Decidable (EndsNumber text) :=
  Option.decidableForallMem text.head?

/-- A text may follow a number if its parts may. -/
theorem EndsNumber.append {first second : List Char}
    (h : EndsNumber first) (hsecond : EndsNumber second) :
  EndsNumber (first ++ second)
  := by
  cases first with
  | nil => apply hsecond
  | cons c rest => apply h

/-- Whether a text may follow a number depends on its beginning alone. -/
theorem EndsNumber.append_of_ne_nil {first : List Char}
    (h : EndsNumber first) (hfirst : first ≠ []) (second : List Char) :
  EndsNumber (first ++ second)
  := by
  cases first with
  | nil => cases hfirst rfl
  | cons c rest => apply h

/-- A text in which just the given numbers follow dollar signs, whatever follows it without
prolonging the last of them. -/
def HasNumbers (text : String) (numbers : List Nat) : Prop :=
  ∀ rest, EndsNumber rest →
    dollarNumbers (text.toList ++ rest) = numbers.map some ++ dollarNumbers rest

/-- The numbers after dollar signs are read back from the text. -/
theorem HasNumbers.dollarNumbers_eq {text : String} {numbers : List Nat}
    (h : HasNumbers text numbers) :
  dollarNumbers text.toList = numbers.map some
  := by
  have hempty := h [] (by simp [EndsNumber])
  rw [List.append_nil] at hempty
  simpa [dollarNumbers] using hempty

/-- A text without dollar signs in front adds no number. -/
theorem dollarNumbers_append {text : List Char} (h : '$' ∉ text) (rest : List Char) :
  dollarNumbers (text ++ rest) = dollarNumbers rest
  := by
  induction text with
  | nil => rfl
  | cons c text ih =>
      rw [List.mem_cons, not_or] at h
      rw [List.cons_append, dollarNumbers, if_neg (Ne.symm h.1), ih h.2]

/-- A text without dollar signs has no numbers. -/
theorem HasNumbers.of_withoutDollar {text : String} (h : WithoutDollar text) :
  HasNumbers text []
  := by
  intro rest _
  rw [dollarNumbers_append h, List.map_nil, List.nil_append]

/-- A number is read from its digits up to a character that is none. -/
theorem takeWhile_isDigit_natDigits (n : Nat) {rest : List Char} (h : EndsNumber rest) :
  (Number.natDigits n ++ rest).takeWhile Char.isDigit = Number.natDigits n
  := by
  have hdigits : ∀ c ∈ Number.natDigits n, c.isDigit = true := by
    intro c hc
    apply Number.isDigit_of_mem_natDigits hc
  have hrest : rest.takeWhile Char.isDigit = [] := by
    cases rest with
    | nil => rfl
    | cons c rest => rw [List.takeWhile_cons_of_neg (by simpa using h c rfl)]
  rw [List.takeWhile_append_of_pos hdigits, hrest, List.append_nil]

theorem not_mem_natDigits (n : Nat) :
  '$' ∉ Number.natDigits n
  := by
  intro h
  cases Number.isDigit_of_mem_natDigits h

theorem withoutDollar_natText (n : Nat) :
  WithoutDollar (Number.natText n)
  := by
  rw [WithoutDollar, Number.natText, String.toList_ofList]
  apply not_mem_natDigits

/-- A placeholder has its number. -/
theorem hasNumbers_placeholder (n : Nat) :
  HasNumbers (placeholder n) [n]
  := by
  intro rest hrest
  rw [toList_placeholder, List.cons_append, dollarNumbers, if_pos rfl,
    dollarNumbers_append (not_mem_natDigits n), takeWhile_isDigit_natDigits n hrest,
    Number.natOfDigits?_natDigits]
  rfl

/-! ### Texts one after the other -/

/-- The numbers of joined texts are those of both, if the second may follow a number. -/
theorem HasNumbers.append
    {first second : String} {numbers more : List Nat} (h : HasNumbers first numbers)
    (hsecond : HasNumbers second more) (hends : EndsNumber second.toList) :
  HasNumbers (first ++ second) (numbers ++ more)
  := by
  intro rest hrest
  rw [String.toList_append, List.append_assoc, h _ (hends.append hrest), hsecond rest hrest,
    List.map_append, List.append_assoc]

/-- A text without dollar signs may stand before numbers. -/
theorem HasNumbers.append_left
    {first second : String} {numbers : List Nat} (h : WithoutDollar first)
    (hsecond : HasNumbers second numbers) :
  HasNumbers (first ++ second) numbers
  := by
  intro rest hrest
  rw [String.toList_append, List.append_assoc, dollarNumbers_append h, hsecond rest hrest]

/-- A text without dollar signs may stand after numbers, if it does not begin with a digit. -/
theorem HasNumbers.append_right
    {first second : String} {numbers : List Nat} (h : HasNumbers first numbers)
    (hsecond : WithoutDollar second) (hends : EndsNumber second.toList) :
  HasNumbers (first ++ second) numbers
  := by
  have happend := h.append (HasNumbers.of_withoutDollar hsecond) hends
  rw [List.append_nil] at happend
  apply happend

/-- Texts that are joined by a separator have their numbers one after the other. -/
theorem HasNumbers.intercalate
    {α : Type} (separator : String) {text : α → String} {numbers : α → List Nat}
    (hseparator : WithoutDollar separator) (hne : separator.toList ≠ [])
    (hends : EndsNumber separator.toList) {xs : List α}
    (h : ∀ x ∈ xs, HasNumbers (text x) (numbers x)) :
  HasNumbers (separator.intercalate (xs.map text)) (xs.flatMap numbers)
  := by
  induction xs with
  | nil =>
      apply HasNumbers.of_withoutDollar
      simp [WithoutDollar]
  | cons x xs ih =>
      rw [List.forall_mem_cons] at h
      cases xs with
      | nil => simpa using h.1
      | cons y ys =>
          rw [List.map_cons, List.map_cons, String.intercalate_cons_cons, String.append_assoc,
            List.flatMap_cons]
          apply h.1.append
          · apply HasNumbers.append_left hseparator
            apply ih h.2
          · rw [String.toList_append]
            apply hends.append_of_ne_nil hne

end TableGateway.Sql
