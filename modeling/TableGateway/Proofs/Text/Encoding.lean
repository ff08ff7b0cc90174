import Mathlib.Tactic.Use
import TableGateway.Text.Percent

/-!
# Percent-encoded texts

Any text is percent-encoded octets: an escape, which is a percent sign and two hexadecimal
digits, stands for the octet with these digits, and every other character stands for its own
octets, a percent sign that begins no escape too. Decoding a text gives just the text whose
octets these are.
-/

namespace TableGateway.Text

/-- A hexadecimal digit of a value below sixteen, small or capital. -/
def IsHexDigit (c : Char) (value : Nat) : Prop :=
  c = hexDigit value ∨ c = (hexDigit value).toUpper

/-- A hexadecimal digit, small or capital. -/
def IsHex (c : Char) : Prop :=
  ∃ value < 16, IsHexDigit c value

/-- A text that begins with an escape. -/
def BeginsWithEscape (text : List Char) : Prop :=
  ∃ high low rest, text = '%' :: high :: low :: rest ∧ IsHex high ∧ IsHex low

/-- The octets that a percent-encoded text stands for. -/
inductive EncodesOctets : List Char → List UInt8 → Prop
  | nil : EncodesOctets [] []
  | escaped {high low : Char} {octet : UInt8} {text : List Char} {octets : List UInt8}
      (hhigh : IsHexDigit high (octet.toNat / 16)) (hlow : IsHexDigit low (octet.toNat % 16))
      (h : EncodesOctets text octets) :
      EncodesOctets ('%' :: high :: low :: text) (octet :: octets)
  | plain {c : Char} {text : List Char} {octets : List UInt8}
      (hc : ¬ BeginsWithEscape (c :: text)) (h : EncodesOctets text octets) :
      EncodesOctets (c :: text) (String.utf8EncodeChar c ++ octets)

/-- A percent-encoded text of a value: the octets that it stands for are those of the value. -/
def Encodes (text : List Char) (value : String) : Prop :=
  EncodesOctets text (utf8Octets value.toList)

/-! ### Hexadecimal digits -/

theorem hexValue?_of_isHexDigit {c : Char} {value : Nat}
    (h : IsHexDigit c value) (hvalue : value < 16) :
  hexValue? c = some value
  := by
  have hcapital : ∀ value : Fin 16, hexValue? (hexDigit value).toUpper = some value.val := by
    decide
  rcases h with rfl | rfl
  · apply hexValue?_hexDigit ⟨value, hvalue⟩
  · apply hcapital ⟨value, hvalue⟩

theorem toNat_lt_of_hexValue? {c : Char} {value : Nat} (h : hexValue? c = some value) :
  c.toNat < 103
  := by
  have hbound : ∀ last : Char, c ≤ last → last.toNat < 103 → c.toNat < 103 := by
    intro last hc hlast
    apply Nat.lt_of_le_of_lt (UInt32.le_iff_toNat_le.mp hc) hlast
  unfold hexValue? at h
  split at h
  · rename_i hc
    apply hbound '9' hc.2 (by decide)
  · split at h
    · rename_i hc
      apply hbound 'f' hc.2 (by decide)
    · split at h
      · rename_i hc
        apply hbound 'F' hc.2 (by decide)
      · cases h

/-- The digits are the characters that have values. -/
theorem hexValue?_eq_some_iff {c : Char} {value : Nat} :
  hexValue? c = some value ↔ value < 16 ∧ IsHexDigit c value
  := by
  constructor
  · intro h
    have hdigits : ∀ n : Fin 103, ∀ value ∈ hexValue? (Char.ofNat n),
        value < 16 ∧ IsHexDigit (Char.ofNat n) value := by
      unfold IsHexDigit
      decide
    have hvalue := hdigits ⟨c.toNat, toNat_lt_of_hexValue? h⟩ value
    rw [Char.ofNat_toNat] at hvalue
    apply hvalue h
  · rintro ⟨hvalue, h⟩
    apply hexValue?_of_isHexDigit h hvalue

theorem isHex_iff {c : Char} :
  IsHex c ↔ ∃ value, hexValue? c = some value
  := by
  simp only [IsHex, hexValue?_eq_some_iff]

/-- Two digits are those of one octet. -/
theorem isHexDigit_octet
    {high low : Char} {first second : Nat} (hhigh : hexValue? high = some first)
    (hlow : hexValue? low = some second) :
  IsHexDigit high ((UInt8.ofNat (16 * first + second)).toNat / 16)
    ∧ IsHexDigit low ((UInt8.ofNat (16 * first + second)).toNat % 16)
  := by
  obtain ⟨hfirst, hhigh⟩ := hexValue?_eq_some_iff.mp hhigh
  obtain ⟨hsecond, hlow⟩ := hexValue?_eq_some_iff.mp hlow
  have hoctet : (UInt8.ofNat (16 * first + second)).toNat = 16 * first + second := by
    rw [UInt8.toNat_ofNat']
    omega
  have hdiv : (16 * first + second) / 16 = first := by
    omega
  have hmod : (16 * first + second) % 16 = second := by
    omega
  rw [hoctet, hdiv, hmod]
  use hhigh, hlow

/-! ### Decoding -/

/-- The octets that a text is decoded to are those that it stands for. -/
theorem encodesOctets_octets (text : List Char) :
  EncodesOctets text (Percent.octets text)
  := by
  fun_induction Percent.octets text with
  | case1 high low rest first second hsecond hfirst ih =>
      obtain ⟨hhigh, hlow⟩ := isHexDigit_octet hfirst hsecond
      apply EncodesOctets.escaped hhigh hlow ih
  | case2 high low rest hnot ih =>
      apply EncodesOctets.plain _ ih
      rintro ⟨_, _, _, heq, hhigh, hlow⟩
      cases heq
      obtain ⟨first, hfirst⟩ := isHex_iff.mp hhigh
      obtain ⟨second, hsecond⟩ := isHex_iff.mp hlow
      apply hnot first second hfirst hsecond
  | case3 c rest hnot ih =>
      apply EncodesOctets.plain _ ih
      rintro ⟨high, low, rest, heq, -⟩
      cases heq
      apply hnot high low rest rfl rfl
  | case4 => apply EncodesOctets.nil

/-- A text stands for no other octets than those that it is decoded to. -/
theorem octets_of_encodesOctets {text : List Char} {octets : List UInt8}
    (h : EncodesOctets text octets) :
  Percent.octets text = octets
  := by
  induction h with
  | nil => rfl
  | @escaped _ _ octet _ _ hhigh hlow _ ih =>
      have hoctet := octet.toNat_lt
      rw [Percent.octets, hexValue?_of_isHexDigit hhigh (by omega),
        hexValue?_of_isHexDigit hlow (by omega), ih]
      simp only [Nat.div_add_mod, UInt8.ofNat_toNat]
  | @plain c text octets hc _ ih =>
      unfold Percent.octets
      split
      · rename_i high low rest heq
        cases heq
        split
        · rename_i first second hfirst hsecond
          cases hc ⟨high, low, rest, rfl, isHex_iff.mpr ⟨first, hfirst⟩,
            isHex_iff.mpr ⟨second, hsecond⟩⟩
        · rw [ih]
      · rename_i heq
        cases heq
        rw [ih]
      · rename_i heq
        cases heq

/-- Octets are decoded to the text whose octets they are. -/
theorem textOfUtf8?_eq_some_iff {octets : List UInt8} {text : List Char} :
  textOfUtf8? octets = some text ↔ utf8Octets text = octets
  := by
  constructor
  · intro h
    obtain ⟨chars, hchars, rfl⟩ := Option.map_eq_some_iff.mp h
    have hsome : octets.toByteArray.utf8Decode?.isSome = true := by
      rw [hchars]
      rfl
    have hencoded := ByteArray.utf8Encode_get_utf8Decode? (h := hsome)
    simp only [hchars, Option.get_some] at hencoded
    apply List.toByteArray_inj.mp hencoded
  · rintro rfl
    apply textOfUtf8?_utf8Octets

/-- A text is decoded to a value exactly when it is a percent-encoded text of the value. -/
theorem decode?_eq_some_iff {text value : List Char} :
  Percent.decode? text = some value ↔ Encodes text (String.ofList value)
  := by
  rw [Percent.decode?, textOfUtf8?_eq_some_iff, Encodes, String.toList_ofList]
  constructor
  · intro h
    rw [h]
    apply encodesOctets_octets
  · intro h
    rw [octets_of_encodesOctets h]

end TableGateway.Text
