/-!
# ASCII letters and digits

Hexadecimal digits and the lower case of ASCII letters. Characters outside ASCII have no digit value
and are their own lower case.
-/

namespace TableGateway.Text

/-- The value of a hexadecimal digit, in either case. -/
def hexValue? (c : Char) : Option Nat :=
  if '0' ≤ c ∧ c ≤ '9' then some (c.toNat - '0'.toNat)
  else if 'a' ≤ c ∧ c ≤ 'f' then some (c.toNat - 'a'.toNat + 10)
  else if 'A' ≤ c ∧ c ≤ 'F' then some (c.toNat - 'A'.toNat + 10)
  else none

/-- The hexadecimal digit of a value below sixteen, with letters in lower case. -/
def hexDigit (n : Nat) : Char :=
  if n < 10 then Char.ofNat ('0'.toNat + n) else Char.ofNat ('a'.toNat + (n - 10))

/-- Every value below sixteen is that of its digit. -/
theorem hexValue?_hexDigit :
  ∀ n : Fin 16, hexValue? (hexDigit n) = some n.val
  := by
  decide

/-- The two hexadecimal digits of an octet. -/
def hexOctet (b : UInt8) : List Char :=
  [hexDigit (b.toNat / 16), hexDigit (b.toNat % 16)]

/-- The octets written by pairs of hexadecimal digits. -/
def octetsOfHex? : List Char → Option (List UInt8)
  | [] => some []
  | [_] => none
  | a :: b :: rest => do
    let high ← hexValue? a
    let low ← hexValue? b
    let octets ← octetsOfHex? rest
    return UInt8.ofNat (16 * high + low) :: octets

/-- The number written by hexadecimal digits, most significant first. -/
def natOfHex? (digits : List Char) : Option Nat :=
  digits.foldlM (fun value c => (16 * value + ·) <$> hexValue? c) 0

/-- The text with its ASCII capital letters made small. -/
def lower (text : List Char) : List Char :=
  text.map Char.toLower

/-- The text with its ASCII small letters made capital. -/
def upper (text : List Char) : List Char :=
  text.map Char.toUpper

theorem isUpper_iff_toNat {c : Char} :
  c.isUpper ↔ 0x41 ≤ c.toNat ∧ c.toNat ≤ 0x5a
  := decide_eq_true_iff

/-- A capital letter becomes the small letter 32 places after it. -/
theorem toNat_toLower {c : Char} (h : c.isUpper) :
  c.toLower.toNat = c.toNat + 0x20
  := by
  have hlower : c.toLower.toNat = (c.val + ('a'.val - 'A'.val)).toNat :=
    congrArg Char.toNat (dif_pos (decide_eq_true_iff.mp h))
  have hbound : c.val.toNat ≤ 0x5a := (isUpper_iff_toNat.mp h).2
  have hdistance : ('a'.val - 'A'.val).toNat = 0x20 := rfl
  have hvalue : c.toNat = c.val.toNat := rfl
  rw [hlower, UInt32.toNat_add]
  omega

/-- A character that is no capital letter stays as it is. -/
theorem toLower_of_not_isUpper {c : Char} (h : ¬ c.isUpper) :
  c.toLower = c
  := dif_neg (h ∘ decide_eq_true)

end TableGateway.Text
