import TableGateway.Decimal.Basic

/-!
# Scales of decimals

A decimal is brought to another scale by dropping places, of which the last decides how the rest is
rounded, or by adding places, as many as the coefficient has room for. Adding places leaves the value as
it is. The sum of two decimals has the greater of their scales, or the greatest at which it fits.
-/

namespace TableGateway.Decimal

/-- A coefficient without its last `places` digits. From five on, the last digit that is dropped rounds
the rest up. -/
def roundedCoefficient (coefficient : Nat) : Nat → Nat
  | 0 => coefficient
  | places + 1 => (coefficient / 10 ^ places + 5) / 10

/-- Dropping places makes a coefficient no greater. -/
theorem roundedCoefficient_le (coefficient places : Nat) :
  roundedCoefficient coefficient places ≤ coefficient
  := by
  cases places with
  | zero => exact Nat.le_refl _
  | succ places =>
    have := Nat.div_le_self coefficient (10 ^ places)
    simp only [roundedCoefficient]
    omega

/-- The decimal with fewer places. -/
def dropPlaces (d : Decimal) (places : Nat) : Decimal where
  negative := d.negative
  coefficient := roundedCoefficient d.coefficient places
  scale := d.scale - places
  coefficient_lt := Nat.lt_of_le_of_lt (roundedCoefficient_le ..) d.coefficient_lt
  scale_le := Nat.le_trans (Nat.sub_le ..) d.scale_le

/-- The decimal with more places, up to a number of them. -/
def addPlaces (d : Decimal) : Nat → Decimal
  | 0 => d
  | places + 1 =>
    if h : d.coefficient * 10 < 2 ^ 96 ∧ d.scale < 28 then
      addPlaces ⟨d.negative, d.coefficient * 10, d.scale + 1, h.1, h.2⟩ places
    else d

/-- The decimal at a scale, or as near to that scale as the coefficient allows. -/
def rescale (d : Decimal) (scale : Nat) : Decimal :=
  if scale ≤ d.scale then d.dropPlaces (d.scale - scale) else d.addPlaces (scale - d.scale)

/-- The integer nearest to a quotient, the even one of two equally near. -/
def nearestQuotient (n unit : Nat) : Nat :=
  let below := n / unit
  let rest := n % unit
  if unit < 2 * rest ∨ (unit = 2 * rest ∧ below % 2 = 1) then below + 1 else below

/-- The decimal nearest to `coefficient / 10 ^ scale` that has as many of its places as fit. -/
def nearest? (negative : Bool) (coefficient scale : Nat) : Option Decimal :=
  (List.range (scale + 1)).findSome? fun places =>
    ofParts? negative (nearestQuotient coefficient (10 ^ places)) (scale - places)

/-- The coefficient with its sign. -/
def signedCoefficient (d : Decimal) : Int :=
  if d.negative then -d.coefficient else d.coefficient

/-- The sum of two decimals, if it is not too great. -/
def add? (d e : Decimal) : Option Decimal :=
  let scale := max d.scale e.scale
  let sum := d.signedCoefficient * 10 ^ (scale - d.scale) +
    e.signedCoefficient * 10 ^ (scale - e.scale)
  nearest? (sum < 0) sum.natAbs scale

end TableGateway.Decimal
