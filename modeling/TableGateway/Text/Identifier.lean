/-!
# Identifiers

An identifier is a name that needs no quoting in a statement: one or more ASCII letters, ASCII digits
and underscores, in any order.
-/

namespace TableGateway.Text

/-- An ASCII letter, an ASCII digit or an underscore. -/
def isIdentifierChar (c : Char) : Bool :=
  c.isAlphanum || c == '_'

/-- One or more identifier characters and nothing else. -/
def isIdentifier (name : List Char) : Bool :=
  !name.isEmpty && name.all isIdentifierChar

/-- An identifier is a text with a character, all of whose characters may stand in names. -/
theorem isIdentifier_iff {name : List Char} :
  isIdentifier name ↔ name ≠ [] ∧ ∀ c ∈ name, isIdentifierChar c
  := by
  simp [isIdentifier]

end TableGateway.Text
