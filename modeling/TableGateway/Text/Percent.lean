import TableGateway.Text.Ascii

/-!
# Percent-encoding

A percent sign followed by two hexadecimal digits stands for one octet; any other character stands
for the octets of its own UTF-8 form. The octets together must be the UTF-8 form of a text.
-/

namespace TableGateway.Text

/-- The octets of the UTF-8 form of a text. -/
def utf8Octets (text : List Char) : List UInt8 :=
  text.flatMap String.utf8EncodeChar

/-- The text whose UTF-8 form is given. -/
def textOfUtf8? (octets : List UInt8) : Option (List Char) :=
  octets.toByteArray.utf8Decode?.map Array.toList

/-- A text is read back from its octets. -/
theorem textOfUtf8?_utf8Octets (text : List Char) :
  textOfUtf8? (utf8Octets text) = some text
  := by
  change (List.utf8Encode text).utf8Decode?.map Array.toList = some text
  simp [List.utf8Decode?_utf8Encode]

namespace Percent

/-- The octets that a percent-encoded text stands for. -/
def octets : List Char → List UInt8
  | '%' :: a :: b :: rest =>
    match hexValue? a, hexValue? b with
    | some high, some low => UInt8.ofNat (16 * high + low) :: octets rest
    | _, _ => String.utf8EncodeChar '%' ++ octets (a :: b :: rest)
  | c :: rest => String.utf8EncodeChar c ++ octets rest
  | [] => []

/-- The text that a percent-encoded text stands for, unless its octets are not UTF-8. -/
def decode? (text : List Char) : Option (List Char) :=
  textOfUtf8? (octets text)

end Percent

end TableGateway.Text
