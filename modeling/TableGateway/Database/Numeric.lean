import TableGateway.Decimal.Scale

/-!
# Numbers of the type NUMERIC

The database sends a number of this type in groups of four digits, counted from the point in both
directions. A decimal is the sum of its groups, which are added from the first on, so that a number with
too many digits is rounded; then it is brought to the scale of the number.
-/

namespace TableGateway

/-- A number of the type NUMERIC: an integer divided by a power of ten, or no number. -/
inductive Numeric where
  | nan
  | finite (negative : Bool) (coefficient scale : Nat)
  deriving DecidableEq

namespace Numeric

/-- The number of groups that a decimal can hold before the point. -/
def wholeGroups : Nat := 8

/-- The number of groups that a decimal can hold after the point. -/
def fractionGroups : Nat := 7

/-- The number `coefficient / 10 ^ scale` in units of the last group, if no digit stands outside the
groups that a decimal can hold. -/
def units? (coefficient scale : Nat) : Option Nat :=
  let shifted := coefficient * 10000 ^ fractionGroups
  let units := shifted / 10 ^ scale
  if shifted % 10 ^ scale = 0 ∧ units < 10000 ^ (wholeGroups + fractionGroups) then some units
  else none

/-- The decimal of a group of four digits, of which `after` groups stand behind it. -/
def group? (units after : Nat) : Option Decimal :=
  let digits := units / 10000 ^ after % 10000
  if after < fractionGroups then Decimal.ofParts? false digits (4 * (fractionGroups - after))
  else Decimal.ofParts? false (digits * 10000 ^ (after - fractionGroups)) 0

/-- The sum of groups, of which `after` are left to be added to a sum of those before them. Groups of
zeros add nothing. -/
def addGroups? (units : Nat) (sum : Decimal) : Nat → Option Decimal
  | 0 => some sum
  | after + 1 => do
    let group ← group? units after
    addGroups? units (← if group.coefficient = 0 then some sum else sum.add? group) after

/-- The decimal for a number, if it is one and not too great. Zero loses its scale and its sign. -/
def toDecimal? : Numeric → Option Decimal
  | nan => none
  | finite negative coefficient scale => do
    let units ← units? coefficient scale
    let sum ← addGroups? units .zero (wholeGroups + fractionGroups)
    return if sum.coefficient = 0 then .zero else { sum with negative }.rescale scale

end Numeric

end TableGateway
