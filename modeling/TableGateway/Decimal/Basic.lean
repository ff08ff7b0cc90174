import TableGateway.Number.Integer

/-!
# Decimals

A decimal is a number with a fixed number of places after the point: a coefficient of ninety-six bits
and a scale of at most twenty-eight. The scale is part of it, so that `1.5` and `1.50` are different
decimals of one value. A zero that is written has no sign; one that is left when places are dropped
keeps the sign it had.
-/

namespace TableGateway

/-- The decimal `coefficient / 10 ^ scale` or its negative. -/
structure Decimal where
  negative : Bool
  coefficient : Nat
  scale : Nat
  coefficient_lt : coefficient < 2 ^ 96
  scale_le : scale ≤ 28
  deriving DecidableEq

namespace Decimal

/-- Zero without places. -/
def zero : Decimal :=
  ⟨false, 0, 0, by decide, by decide⟩

/-- The decimal with the given parts, if they are not too great. -/
def ofParts? (negative : Bool) (coefficient scale : Nat) : Option Decimal :=
  if h : coefficient < 2 ^ 96 ∧ scale ≤ 28 then
    some ⟨negative && coefficient != 0, coefficient, scale, h.1, h.2⟩
  else none

/-- The rational number that a decimal stands for. -/
def value (d : Decimal) : Rat :=
  let magnitude : Rat := (d.coefficient : Rat) / 10 ^ d.scale
  if d.negative then -magnitude else magnitude

/-- The text of a decimal, with all places of its scale. -/
def text (d : Decimal) : String :=
  let digits := Number.padded (d.scale + 1) d.coefficient
  let whole := digits.take (digits.length - d.scale)
  let fraction := digits.drop (digits.length - d.scale)
  String.ofList ((if d.negative then ['-'] else []) ++ whole ++
    (if d.scale = 0 then [] else '.' :: fraction))

end Decimal

end TableGateway
