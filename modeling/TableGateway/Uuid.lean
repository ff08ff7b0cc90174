import TableGateway.Text.Ascii
import TableGateway.Text.Cut

/-!
# Universally unique identifiers

A UUID is thirty-two hexadecimal digits. It is written in five groups with hyphens between them, and
read in that form, alone, between braces or after `urn:uuid:`, or as thirty-two digits.
-/

namespace TableGateway

/-- The digits of a UUID. -/
structure Uuid where
  digits : List (Fin 16)
  length_eq : digits.length = 32
  deriving DecidableEq

namespace Uuid

/-- The text of digits in small letters. -/
def digitsText (digits : List (Fin 16)) : List Char :=
  digits.map fun d : Fin 16 => Text.hexDigit d.val

/-- The text of a UUID: groups of eight, four, four, four and twelve digits. -/
def text (uuid : Uuid) : String :=
  let d := digitsText uuid.digits
  String.ofList (d.take 8 ++ '-' :: ((d.drop 8).take 4 ++ '-' :: ((d.drop 12).take 4 ++ '-' ::
    ((d.drop 16).take 4 ++ '-' :: d.drop 20))))

/-- The value of a hexadecimal digit. -/
def digit? (c : Char) : Option (Fin 16) :=
  (Text.hexValue? c).map (Fin.ofNat 16)

/-- The UUID with the given digits. -/
def ofDigits? (text : List Char) : Option Uuid := do
  let digits ← text.mapM digit?
  if h : digits.length = 32 then some ⟨digits, h⟩ else none

/-- The UUID in groups of digits with hyphens between them. -/
def hyphenated? (text : List Char) : Option Uuid :=
  match text.splitOn '-' with
  | [a, b, c, d, e] =>
    if a.length = 8 ∧ b.length = 4 ∧ c.length = 4 ∧ d.length = 4 then
      ofDigits? (a ++ b ++ c ++ d ++ e)
    else none
  | _ => none

/-- The UUID that a text writes. -/
def ofText? (text : List Char) : Option Uuid :=
  if text.length = 32 then ofDigits? text
  else if text.length = 36 then hyphenated? text
  else
    match Text.dropWord? "urn:uuid:".toList (Text.lower text) with
    | some rest => hyphenated? rest
    | none =>
      match text with
      | '\x7b' :: rest =>
        if rest.getLast? = some '\x7d' then hyphenated? rest.dropLast else none
      | _ => none

end Uuid

end TableGateway
