import TableGateway.Number.Power

/-!
# Integers in decimal

An integer is written with ASCII digits. Reading allows a sign in front and leading zeros; writing
uses neither, except the minus of a negative integer.
-/

namespace TableGateway.Number

/-- The number written by one or more ASCII digits. -/
def natOfDigits? (text : List Char) : Option Nat :=
  if !text.isEmpty && text.all Char.isDigit then some (Nat.ofDigitChars 10 text 0) else none

/-- A number is read from a text exactly if there is a character and all are digits. -/
theorem natOfDigits?_eq_some_iff {text : List Char} {n : Nat} :
  natOfDigits? text = some n
    ↔ text ≠ [] ∧ (∀ c ∈ text, c.isDigit = true) ∧ Nat.ofDigitChars 10 text 0 = n
  := by
  simp [natOfDigits?, and_assoc]

/-- The digits of a number, without leading zeros. -/
def natDigits (n : Nat) : List Char :=
  Nat.toDigits 10 n

theorem isDigit_of_mem_natDigits {n : Nat} {c : Char} (h : c ∈ natDigits n) :
  c.isDigit = true
  := Nat.isDigit_of_mem_toDigits (by decide) (by decide) h

/-- Every number has a digit, zero too. -/
theorem natDigits_ne_nil (n : Nat) :
  natDigits n ≠ []
  := by
  intro h
  have value : Nat.ofDigitChars 10 (natDigits n) 0 = n :=
    Nat.ofDigitChars_toDigits (by decide) (by decide)
  rw [h] at value
  subst value
  exact absurd h (by decide)

/-- A number is read from its own digits. -/
theorem natOfDigits?_natDigits (n : Nat) :
  natOfDigits? (natDigits n) = some n
  := by
  have digits : (natDigits n).all Char.isDigit := by
    simp only [List.all_eq_true]
    exact fun c h => isDigit_of_mem_natDigits h
  have value : Nat.ofDigitChars 10 (natDigits n) 0 = n :=
    Nat.ofDigitChars_toDigits (by decide) (by decide)
  simp [natOfDigits?, digits, value, natDigits_ne_nil]

/-- The number written by digits with an optional plus in front. -/
def unsigned? : List Char → Option Nat
  | '+' :: digits => natOfDigits? digits
  | digits => natOfDigits? digits

/-- A plus before the digits may be left out and changes nothing. -/
theorem unsigned?_eq_some_iff {text : List Char} {n : Nat} :
  unsigned? text = some n
    ↔ ∃ digits, (text = digits ∨ text = '+' :: digits) ∧ natOfDigits? digits = some n
  := by
  unfold unsigned?
  constructor
  · split
    · rename_i digits
      intro h
      exact ⟨digits, .inr rfl, h⟩
    · intro h
      exact ⟨text, .inl rfl, h⟩
  · rintro ⟨digits, rfl | rfl, h⟩
    · split
      · rename_i digits
        have plus := (natOfDigits?_eq_some_iff.1 h).2.1 '+' List.mem_cons_self
        cases plus
      · exact h
    · exact h

theorem unsigned?_natDigits (n : Nat) :
  unsigned? (natDigits n) = some n
  := by
  unfold unsigned?
  split
  · rename_i digits heq
    have plus : '+' ∈ natDigits n := by simp [heq]
    cases isDigit_of_mem_natDigits plus
  · apply natOfDigits?_natDigits

/-- The integer written by digits with an optional sign in front. -/
def signed? : List Char → Option Int
  | '-' :: digits => (natOfDigits? digits).map fun n => -(n : Int)
  | text => (unsigned? text).map Int.ofNat

/-- A number below `bound`, with an optional plus in front. -/
def unsignedBelow? (bound : Nat) (text : List Char) : Option Nat :=
  (unsigned? text).filter (· < bound)

/-- The integers of sixty-four bits. -/
def isInt64 (n : Int) : Bool :=
  -2 ^ 63 ≤ n && n < 2 ^ 63

/-- An integer of sixty-four bits, with an optional sign in front. -/
def int64? (text : List Char) : Option Int :=
  (signed? text).filter isInt64

/-- The decimal text of an integer. -/
def intText : Int → String
  | .ofNat n => String.ofList (natDigits n)
  | .negSucc n => String.ofList ('-' :: natDigits (n + 1))

/-- The decimal text of a number. -/
def natText (n : Nat) : String :=
  String.ofList (natDigits n)

/-- The last digits of a number, filled with zeros in front to at least `width` digits. -/
def padded (width n : Nat) : List Char :=
  let digits := natDigits n
  List.replicate (width - digits.length) '0' ++ digits

end TableGateway.Number
