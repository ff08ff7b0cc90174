import TableGateway.Binary64.Basic
import TableGateway.Decimal.Basic
import TableGateway.Json.Basic

/-!
# Decimals as floating-point numbers

A decimal is shown as a floating-point number near to it. The parts before and after the point are
rounded on their own and added, and the sum is then rounded to the places of the decimal, each step in
floating-point arithmetic. Where no finite number came of this, the decimal would be shown as its text.
-/

namespace TableGateway.Decimal

/-- The floating-point number for the magnitude of a decimal. -/
def magnitudeBinary64 (d : Decimal) : Binary64 :=
  let unit := 10 ^ d.scale
  let whole := Binary64.ofInt (d.coefficient / unit : Nat)
  let rest := d.coefficient % unit
  if rest = 0 then whole
  else
    let fraction := (Binary64.ofInt rest).div (.ofInt unit)
    let scaled := (whole.add fraction).mul (.ofInt unit)
    scaled.round.div (.ofInt unit)

/-- The floating-point number for a decimal. -/
def toBinary64 (d : Decimal) : Binary64 :=
  if d.negative then d.magnitudeBinary64.neg else d.magnitudeBinary64

/-- The floating-point number for a decimal, if it has one. Every decimal has. -/
def toBinary64? (d : Decimal) : Option Binary64 :=
  some d.toBinary64

/-- The JSON value for a decimal: its number if that is finite, and its text otherwise. -/
def toJson (d : Decimal) : Json :=
  (d.toBinary64?.bind Json.ofBinary64?).getD (.string d.text)

end TableGateway.Decimal
