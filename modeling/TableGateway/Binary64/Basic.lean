import TableGateway.Number.Power

/-!
# Binary floating point

A `Binary64` is a floating-point number of sixty-four bits: a sign, eleven bits of exponent and
fifty-two bits of fraction. A finite one stands for a rational number. An operation on such numbers
is computed exactly in the rational numbers and then rounded once, to the nearest representable
number, and to the one with an even fraction if two are equally near.
-/

namespace TableGateway

/-- A floating-point number, given by its sixty-four bits. -/
structure Binary64 where
  bits : UInt64
  deriving DecidableEq

namespace Binary64

/-- The bits of positive infinity; the finite magnitudes lie below. -/
def infinityBits : Nat :=
  0x7ff * 2 ^ 52

/-- The bits without the sign. -/
def magnitudeBits (x : Binary64) : Nat :=
  x.bits.toNat % 2 ^ 63

/-- Whether the sign bit is set. -/
def isNegative (x : Binary64) : Bool :=
  2 ^ 63 ≤ x.bits.toNat

/-- Neither infinite nor without a numeric value. -/
def isFinite (x : Binary64) : Bool :=
  x.magnitudeBits < infinityBits

/-- Without a numeric value. -/
def isNaN (x : Binary64) : Bool :=
  infinityBits < x.magnitudeBits

/-- The number with the given magnitude bits and sign. -/
def ofMagnitude (negative : Bool) (magnitude : Nat) : Binary64 :=
  ⟨UInt64.ofNat (if negative then 2 ^ 63 + magnitude else magnitude)⟩

/-- Infinity with a sign. -/
def infinity (negative : Bool) : Binary64 :=
  ofMagnitude negative infinityBits

/-- The value that is no number. -/
def nan : Binary64 :=
  ofMagnitude false (infinityBits + 2 ^ 51)

/-- Zero with a sign. -/
def zero (negative : Bool) : Binary64 :=
  ofMagnitude negative 0

/-- The number with the opposite sign. -/
def neg (x : Binary64) : Binary64 :=
  ofMagnitude (!x.isNegative) x.magnitudeBits

/-- The integer `m` and the exponent `e` with magnitude `m * 2 ^ e`, for a finite number. -/
def significand (x : Binary64) : Nat × Int :=
  let exponent : Nat := x.magnitudeBits / 2 ^ 52
  let fraction : Nat := x.magnitudeBits % 2 ^ 52
  if exponent = 0 then (fraction, -1074) else (2 ^ 52 + fraction, (exponent : Int) - 1075)

/-- The magnitude of a finite number. -/
def magnitude (x : Binary64) : Rat :=
  let (m, e) := x.significand
  (m : Rat) * 2 ^ e

/-- The rational number that a finite number stands for. -/
def value (x : Binary64) : Rat :=
  if x.isNegative then -x.magnitude else x.magnitude

/-- The nearest integer to a non-negative rational, the even one of two equally near. -/
def roundHalfEven (r : Rat) : Nat :=
  let below := r.floor.toNat
  let rest := r - below
  if 1 / 2 < rest ∨ (rest = 1 / 2 ∧ below % 2 = 1) then below + 1 else below

/-- The exponent at which a positive rational has an integer part of fifty-three bits, or the least
exponent if that is greater. -/
def scaleOf (r : Rat) : Int :=
  let estimate : Int := (r.num.toNat.log2 : Int) - (r.den.log2 : Int) - 53
  let scale := if (2 : Rat) ^ (53 : Int) ≤ r * 2 ^ (-estimate) then estimate + 1 else estimate
  max scale (-1074)

/-- The magnitude bits of the nearest representable number to a non-negative rational. Consecutive
magnitudes have consecutive bits, so a fraction that rounds up to a power of two carries into the
exponent, and the carry out of the greatest magnitude is infinity. -/
def magnitudeOfRat (r : Rat) : Nat :=
  if r ≤ 0 then 0 else
    let e := scaleOf r
    let m := roundHalfEven (r * 2 ^ (-e))
    min ((e + 1074).toNat * 2 ^ 52 + m) infinityBits

/-- The nearest representable number to a rational; zero is positive. -/
def ofRat (r : Rat) : Binary64 :=
  if r < 0 then ofMagnitude true (magnitudeOfRat (-r)) else ofMagnitude false (magnitudeOfRat r)

/-- The nearest representable number to an integer. -/
def ofInt (n : Int) : Binary64 :=
  ofRat n

/-- The sum of two finite numbers. -/
def add (x y : Binary64) : Binary64 :=
  ofRat (x.value + y.value)

/-- The product of two finite numbers. -/
def mul (x y : Binary64) : Binary64 :=
  ofRat (x.value * y.value)

/-- The quotient of two finite numbers, the second not zero. -/
def div (x y : Binary64) : Binary64 :=
  ofRat (x.value / y.value)

/-- The nearest integer to a finite number that is not negative, the greater of two equally near. -/
def round (x : Binary64) : Binary64 :=
  ofInt (x.value + 1 / 2).floor

/-- The nearest representable number to `digits * 10 ^ exponent`. Beyond the exponents that matter
the result is infinity or zero, whatever the digits. -/
def ofDecimal (digits : Nat) (exponent : Int) : Binary64 :=
  if digits = 0 then zero false
  else
    let leading := exponent + (Nat.toDigits 10 digits).length
    if 310 < leading then infinity false
    else if leading < -330 then zero false
    else ofRat ((digits : Rat) * 10 ^ exponent)

/-- The number whose thirty-two bits are given as a sign, eight bits of exponent and twenty-three
bits of fraction; every such number is representable. -/
def ofBinary32 (bits : UInt32) : Binary64 :=
  let negative := decide (2 ^ 31 ≤ bits.toNat)
  let exponent : Nat := bits.toNat % 2 ^ 31 / 2 ^ 23
  let fraction : Nat := bits.toNat % 2 ^ 23
  if exponent = 0xff then
    if fraction = 0 then infinity negative else nan
  else
    let (m, e) : Nat × Int :=
      if exponent = 0 then (fraction, -149) else (2 ^ 23 + fraction, (exponent : Int) - 150)
    ofMagnitude negative (magnitudeOfRat ((m : Rat) * 2 ^ e))

end Binary64

end TableGateway
