import TableGateway.Binary64.Basic

/-!
# Shortest decimals

The rational numbers that round to a given floating-point number form an interval, whose ends belong
to it if the fraction is even. The shortest decimal of the number is the one with the fewest digits
in that interval, and the nearest to the number among those.
-/

namespace TableGateway.Binary64

/-- A positive decimal `0.d₁d₂… * 10 ^ point` with the digits `d₁d₂…`, the first not zero. -/
structure Digits where
  digits : List Char
  point : Int

/-- The ends of the interval of rationals that round to a positive finite number. -/
def interval (x : Binary64) : Rat × Rat :=
  let (m, e) := x.significand
  let below : Rat := if m = 2 ^ 52 ∧ -1074 < e then 1 / 4 else 1 / 2
  (((m : Rat) - below) * 2 ^ e, ((m : Rat) + 1 / 2) * 2 ^ e)

/-- Whether a rational rounds to a positive finite number. -/
def roundsTo (x : Binary64) (r : Rat) : Bool :=
  let (low, high) := x.interval
  if x.significand.1 % 2 = 0 then low ≤ r ∧ r ≤ high else low < r ∧ r < high

/-- The least integer `k` with `r < 10 ^ k`, for a positive rational. -/
def decimalPoint (r : Rat) : Int :=
  let estimate : Int :=
    ((Nat.toDigits 10 r.num.toNat).length : Int) - (Nat.toDigits 10 r.den).length
  if (10 : Rat) ^ estimate ≤ r then estimate + 1 else estimate

/-- A decimal with `count` digits that rounds to the number, if there is one: of the two neighbours
of the number on the grid of such decimals the nearer, and the even one of two equally near. -/
def withDigits? (x : Binary64) (point : Int) (count : Nat) : Option Nat :=
  let grid : Rat := 10 ^ (point - count)
  let r := x.magnitude / grid
  let below := r.floor.toNat
  let fits (n : Nat) := x.roundsTo ((n : Rat) * grid)
  let nearer := roundHalfEven r
  if fits nearer then some nearer
  else if fits below then some below
  else if fits (below + 1) then some (below + 1)
  else none

/-- The digits without their trailing zeros. -/
def dropZeros (digits : List Char) : List Char :=
  (digits.reverse.dropWhile (· == '0')).reverse

/-- The shortest decimal of a positive finite number. Seventeen digits always suffice. -/
def shortest (x : Binary64) : Digits :=
  let r := x.magnitude
  let point := decimalPoint r
  let found := (List.range' 1 17).findSome? fun count =>
    (x.withDigits? point count).map fun n => (n, count)
  match found with
  | some (n, count) =>
    let digits := Nat.toDigits 10 n
    ⟨dropZeros digits, point + digits.length - count⟩
  | none => ⟨Nat.toDigits 10 r.floor.toNat, point⟩

end TableGateway.Binary64
