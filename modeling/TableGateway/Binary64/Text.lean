import TableGateway.Binary64.Basic
import TableGateway.Number.Integer
import TableGateway.Text.Ascii

/-!
# Reading floating-point numbers

A floating-point number is written as an optional sign, followed by `inf`, `infinity` or `nan` in any
case, or by decimal digits with at most one point among them and an optional exponent. The digits
read as the nearest representable number.
-/

namespace TableGateway.Binary64

/-- The exponent after the digits: nothing, or `e` and an integer. -/
def exponent? : List Char → Option Int
  | [] => some 0
  | c :: rest => if c = 'e' ∨ c = 'E' then Number.signed? rest else none

/-- Digits with at most one point among them and an optional exponent. -/
def unsignedDecimal? (text : List Char) : Option Binary64 := do
  let whole := text.takeWhile Char.isDigit
  let afterWhole := text.dropWhile Char.isDigit
  let (fraction, rest) :=
    match afterWhole with
    | '.' :: tail => (tail.takeWhile Char.isDigit, tail.dropWhile Char.isDigit)
    | _ => ([], afterWhole)
  let digits ← Number.natOfDigits? (whole ++ fraction)
  let exponent ← exponent? rest
  return ofDecimal digits (exponent - fraction.length)

/-- A number without a sign. -/
def unsigned? (text : List Char) : Option Binary64 :=
  let word := Text.lower text
  if word = ['i', 'n', 'f'] ∨ word = ['i', 'n', 'f', 'i', 'n', 'i', 't', 'y'] then
    some (infinity false)
  else if word = ['n', 'a', 'n'] then some nan
  else unsignedDecimal? text

/-- The floating-point number that a text writes. -/
def ofText? : List Char → Option Binary64
  | '-' :: rest => (unsigned? rest).map neg
  | '+' :: rest => unsigned? rest
  | text => unsigned? text

end TableGateway.Binary64
