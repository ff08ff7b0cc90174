import TableGateway.Decimal.Scale

/-!
# Reading decimals

A decimal is written as an optional sign and digits with at most one point among them; underscores
may follow the first digit. The first digit after the point that does not fit the coefficient or the
scale rounds the decimal, half away from zero, and those after it are left out; before the point all
digits must fit. In scientific notation an exponent follows, which moves the point.
-/

namespace TableGateway.Decimal

/-- The coefficient and the scale, rounded by a digit that does not fit any more. A coefficient that
becomes too great by rounding loses one more place. -/
def roundBy? (coefficient scale digit : Nat) : Option (Nat × Nat) :=
  if digit < 5 then some (coefficient, scale)
  else if coefficient + 1 < 2 ^ 96 then some (coefficient + 1, scale)
  else if scale = 0 then none
  else some ((coefficient + 1 + 4) / 10, scale - 1)

/-- Whether a character may stand after the digit that rounds a decimal. -/
def isLeftOut (c : Char) : Bool :=
  c.isDigit || c == '_'

/-- The coefficient and the scale at the first place that does not fit any more, after the point. A
character there that is no digit counts as zero, if it may stand among the digits at all. -/
def roundAt? (coefficient scale : Nat) (c : Char) (rest : List Char) : Option (Nat × Nat) :=
  if rest.all isLeftOut then
    if c.isDigit then roundBy? coefficient scale (c.toNat - '0'.toNat)
    else if c = '_' ∨ c = '.' then some (coefficient, scale)
    else none
  else none

/-- The coefficient and the scale of digits, of which `coefficient` and `scale` have been read.
`point` says whether the point has been read, and `started` whether a digit has. -/
def digits? (point started : Bool) (coefficient scale : Nat) : List Char → Option (Nat × Nat)
  | [] => if started then some (coefficient, scale) else none
  | c :: rest =>
    if point && scale == 28 then roundAt? coefficient scale c rest
    else if c.isDigit then
      let next := 10 * coefficient + (c.toNat - '0'.toNat)
      if next < 2 ^ 96 then digits? point true next (if point then scale + 1 else 0) rest
      else if point then roundAt? coefficient scale c rest
      else none
    else if c = '.' && !point then digits? true started coefficient scale rest
    else if c = '_' && started then digits? point started coefficient scale rest
    else none

/-- A decimal in positional notation. -/
def positional? (text : List Char) : Option Decimal := do
  let (negative, digits) :=
    match text with
    | '-' :: rest => (true, rest)
    | '+' :: rest => (false, rest)
    | _ => (false, text)
  let (coefficient, scale) ← digits? false false 0 0 digits
  ofParts? negative coefficient scale

/-- An exponent of scientific notation. -/
def exponent? (text : List Char) : Option Nat :=
  Number.unsignedBelow? (2 ^ 32) text

/-- The decimal with its point moved to the left. Where the scale has no room for the places, the last
ones of the decimal are dropped first. -/
def shiftLeft? (d : Decimal) (places : Nat) : Option Decimal :=
  if h : places ≤ 28 then
    let kept := d.dropPlaces (d.scale + places - 28)
    have fits : kept.scale + places ≤ 28 := by simp only [kept, dropPlaces]; omega
    some { kept with scale := kept.scale + places, scale_le := fits }
  else none

/-- The decimal with its point moved to the right. Places that the scale does not have become zeros
of the coefficient. -/
def shiftRight? (d : Decimal) (places : Nat) : Option Decimal :=
  if places ≤ d.scale then ofParts? d.negative d.coefficient (d.scale - places)
  else if places ≤ 28 then ofParts? d.negative (d.coefficient * 10 ^ (places - d.scale)) 0
  else none

/-- A decimal in scientific notation. -/
def scientific? (text : List Char) : Option Decimal := do
  let isMark (c : Char) := c == 'e' || c == 'E'
  let d ← positional? (text.takeWhile fun c => !isMark c)
  match text.dropWhile fun c => !isMark c with
  | _ :: '-' :: exponent => d.shiftLeft? (← exponent? exponent)
  | _ :: exponent => d.shiftRight? (← exponent? exponent)
  | [] => none

/-- The decimal that a text writes. -/
def ofText? (text : List Char) : Option Decimal :=
  (positional? text).or (scientific? text)

end TableGateway.Decimal
