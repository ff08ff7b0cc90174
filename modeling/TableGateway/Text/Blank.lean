/-!
# White space

The characters with the Unicode property `White_Space`, and the text between the blanks at its ends.
-/

namespace TableGateway.Text

/-- The characters with the property `White_Space`. -/
def isBlank (c : Char) : Bool :=
  let n := c.toNat
  (0x9 ≤ n && n ≤ 0xd) || n == 0x20 || n == 0x85 || n == 0xa0 || n == 0x1680 ||
    (0x2000 ≤ n && n ≤ 0x200a) || n == 0x2028 || n == 0x2029 || n == 0x202f || n == 0x205f ||
    n == 0x3000

/-- The text after its leading blanks. -/
def trimStart (text : List Char) : List Char :=
  text.dropWhile isBlank

/-- The text before its trailing blanks. -/
def trimEnd (text : List Char) : List Char :=
  (trimStart text.reverse).reverse

/-- The text between its leading and trailing blanks. -/
def trim (text : List Char) : List Char :=
  trimEnd (trimStart text)

/-- Nothing is dropped from a text whose first character is not one to be dropped. -/
theorem dropWhile_eq_self {p : Char → Bool} {text : List Char} (h : ∀ c ∈ text.head?, p c = false) :
  text.dropWhile p = text
  := by
  cases text with
  | nil => rfl
  | cons c rest => simp [List.dropWhile, h c rfl]

/-- A text without blanks at its ends is its own trimmed form. -/
theorem trim_eq_self
    {text : List Char} (first : ∀ c ∈ text.head?, isBlank c = false)
    (last : ∀ c ∈ text.getLast?, isBlank c = false) :
  trim text = text
  := by
  have h : trimStart text = text := dropWhile_eq_self first
  rw [trim, h, trimEnd, trimStart, dropWhile_eq_self (by simpa using last), List.reverse_reverse]

end TableGateway.Text
