import TableGateway.Proofs.Text.Encoding
import TableGateway.Proofs.Text.OctetOrder
import TableGateway.Text.Identifier

/-!
# Spellings of texts

The octets of a text are spelled in a request one after the other: each by a percent sign
and its two hexadecimal digits, small or capital, or by the identifier character that it
encodes. A text has many spellings, and percent-decoding each of them gives the text. Of an
identifier there are no other percent-encoded texts than its spellings.
-/

namespace TableGateway.Text

/-- A text that spells octets. -/
inductive SpellsOctets : List Char → List UInt8 → Prop
  | nil : SpellsOctets [] []
  | escaped {high low : Char} {octet : UInt8} {text : List Char} {octets : List UInt8}
      (hhigh : IsHexDigit high (octet.toNat / 16)) (hlow : IsHexDigit low (octet.toNat % 16))
      (h : SpellsOctets text octets) :
      SpellsOctets ('%' :: high :: low :: text) (octet :: octets)
  | plain {c : Char} {text : List Char} {octets : List UInt8}
      (hc : isIdentifierChar c = true) (h : SpellsOctets text octets) :
      SpellsOctets (c :: text) (UInt8.ofNat c.toNat :: octets)

/-- A text that spells the octets of a value. -/
def Spells (text : List Char) (value : String) : Prop :=
  SpellsOctets text (utf8Octets value.toList)

/-- Octets can be spelled with an escape for each of them. -/
theorem exists_spellsOctets (octets : List UInt8) :
  ∃ text, SpellsOctets text octets
  := by
  induction octets with
  | nil =>
      use []
      apply SpellsOctets.nil
  | cons octet octets ih =>
      obtain ⟨text, h⟩ := ih
      use '%' :: hexDigit (octet.toNat / 16) :: hexDigit (octet.toNat % 16) :: text
      apply SpellsOctets.escaped (.inl rfl) (.inl rfl) h

theorem exists_spells (value : String) :
  ∃ text, Spells text value
  := exists_spellsOctets (utf8Octets value.toList)

/-! ### The characters of spellings -/

/-- The characters of spellings. -/
def isSpellingChar (c : Char) : Bool :=
  isIdentifierChar c || c == '%'

theorem isIdentifierChar_of_isHexDigit {c : Char} {value : Nat}
    (h : IsHexDigit c value) (hvalue : value < 16) :
  isIdentifierChar c = true
  := by
  have hdigits : ∀ value : Fin 16, isIdentifierChar (hexDigit value) = true
      ∧ isIdentifierChar (hexDigit value).toUpper = true := by
    decide
  rcases h with rfl | rfl
  · apply (hdigits ⟨value, hvalue⟩).1
  · apply (hdigits ⟨value, hvalue⟩).2

theorem isSpellingChar_of_mem {text : List Char} {octets : List UInt8}
    (h : SpellsOctets text octets) {c : Char} (hc : c ∈ text) :
  isSpellingChar c = true
  := by
  induction h with
  | nil => cases hc
  | @escaped _ _ octet _ _ hhigh hlow _ ih =>
      have hoctet := octet.toNat_lt
      simp only [List.mem_cons] at hc
      rcases hc with rfl | rfl | rfl | hc
      · rfl
      · rw [isSpellingChar, isIdentifierChar_of_isHexDigit hhigh (by omega), Bool.true_or]
      · rw [isSpellingChar, isIdentifierChar_of_isHexDigit hlow (by omega), Bool.true_or]
      · apply ih hc
  | plain hplain _ ih =>
      rcases List.mem_cons.mp hc with rfl | hc
      · rw [isSpellingChar, hplain, Bool.true_or]
      · apply ih hc

/-- A spelling has no separators. -/
theorem not_mem_of_spells {text : List Char} {value : String} (h : Spells text value)
    {c : Char} (hc : isSpellingChar c = false) :
  c ∉ text
  := by
  intro hmem
  rw [isSpellingChar_of_mem h hmem] at hc
  cases hc

/-- Only the empty text has the empty spelling. -/
theorem eq_empty_of_spells_nil {value : String} (h : Spells [] value) :
  value = ""
  := by
  rw [Spells, utf8Octets] at h
  cases hvalue : value.toList with
  | nil => simpa using hvalue
  | cons c rest =>
      obtain ⟨octet, octets, hoctets⟩ :=
        List.exists_cons_of_ne_nil (String.utf8EncodeChar_ne_nil (c := c))
      rw [hvalue, List.flatMap_cons, hoctets] at h
      cases h

/-! ### Decoding -/

/-- An identifier character is encoded by one octet. -/
theorem utf8EncodeChar_of_isIdentifierChar {c : Char} (h : isIdentifierChar c = true) :
  String.utf8EncodeChar c = [UInt8.ofNat c.toNat]
  := by
  have hrange : ∀ last : UInt32, c.val ≤ last → last.toNat ≤ 127 → c.val.toNat ≤ 127 := by
    intro last h hlast
    apply Nat.le_trans (UInt32.le_iff_toNat_le.mp h) hlast
  have hascii : c.val.toNat ≤ 127 := by
    change ((c.isUpper || c.isLower || c.isDigit) || c == '_') = true at h
    rw [Bool.or_eq_true, Bool.or_eq_true, Bool.or_eq_true, beq_iff_eq] at h
    rcases h with ((h | h) | h) | rfl
    · apply hrange 'Z'.val (of_decide_eq_true h).2 (by decide)
    · apply hrange 'z'.val (of_decide_eq_true (Bool.and_eq_true_iff.mp h).2) (by decide)
    · apply hrange '9'.val (of_decide_eq_true (Bool.and_eq_true_iff.mp h).2) (by decide)
    · decide
  rw [String.utf8EncodeChar, if_pos hascii]
  rfl

/-- Identifier characters spell themselves. -/
theorem spellsOctets_self {text : List Char} (h : ∀ c ∈ text, isIdentifierChar c = true) :
  SpellsOctets text (utf8Octets text)
  := by
  rw [utf8Octets]
  induction text with
  | nil => apply SpellsOctets.nil
  | cons c rest ih =>
      rw [List.forall_mem_cons] at h
      rw [List.flatMap_cons, utf8EncodeChar_of_isIdentifierChar h.1]
      apply SpellsOctets.plain h.1 (ih h.2)

/-- A spelling is a percent-encoded text. -/
theorem encodesOctets_of_spellsOctets {text : List Char} {octets : List UInt8}
    (h : SpellsOctets text octets) :
  EncodesOctets text octets
  := by
  induction h with
  | nil => apply EncodesOctets.nil
  | escaped hhigh hlow _ ih => apply EncodesOctets.escaped hhigh hlow ih
  | @plain c _ octets hc _ ih =>
      change EncodesOctets _ ([UInt8.ofNat c.toNat] ++ octets)
      rw [← utf8EncodeChar_of_isIdentifierChar hc]
      apply EncodesOctets.plain _ ih
      rintro ⟨_, _, _, heq, -⟩
      cases heq
      cases hc

/-- Decoding a spelling of a text gives the text. -/
theorem decode?_of_spells {text : List Char} {value : String} (h : Spells text value) :
  Percent.decode? text = some value.toList
  := by
  rw [decode?_eq_some_iff, String.ofList_toList]
  apply encodesOctets_of_spellsOctets h

/-- The octets of a character are not the beginning of those of another one. -/
theorem utf8EncodeChar_append_inj {c d : Char} {rest others : List UInt8}
    (h : String.utf8EncodeChar c ++ rest = String.utf8EncodeChar d ++ others) :
  c = d ∧ rest = others
  := by
  have hle : ∀ {c d : Char} {rest others : List UInt8},
      String.utf8EncodeChar c ++ rest = String.utf8EncodeChar d ++ others → ¬ c < d := by
    intro c d rest others h hlt
    have hless := utf8EncodeChar_append_lt hlt rest others
    rw [h] at hless
    apply List.lt_irrefl _ hless
  obtain rfl := Char.le_antisymm (Char.not_lt.mp (hle h.symm)) (Char.not_lt.mp (hle h))
  use rfl, List.append_cancel_left h

/-- The percent-encoded texts of identifier characters are their spellings. -/
theorem spellsOctets_of_encodesOctets {text value : List Char}
    (h : EncodesOctets text (utf8Octets value))
    (hvalue : ∀ c ∈ value, isIdentifierChar c = true) :
  SpellsOctets text (utf8Octets value)
  := by
  -- Each character of the value has one octet, which only an escape and the character stand for.
  generalize hoctets : utf8Octets value = octets at h
  induction h generalizing value with
  | nil => apply SpellsOctets.nil
  | @escaped high low octet text octets hhigh hlow _ ih =>
      cases value with
      | nil => cases hoctets
      | cons d value =>
          rw [List.forall_mem_cons] at hvalue
          rw [utf8Octets, List.flatMap_cons, utf8EncodeChar_of_isIdentifierChar hvalue.1] at hoctets
          obtain ⟨-, hrest⟩ := List.cons.inj hoctets
          apply SpellsOctets.escaped hhigh hlow (ih hvalue.2 hrest)
  | @plain c text octets _ _ ih =>
      cases value with
      | nil => cases String.utf8EncodeChar_ne_nil (List.append_eq_nil_iff.mp hoctets.symm).1
      | cons d value =>
          rw [List.forall_mem_cons] at hvalue
          obtain ⟨rfl, hrest⟩ := utf8EncodeChar_append_inj hoctets
          rw [utf8EncodeChar_of_isIdentifierChar hvalue.1]
          apply SpellsOctets.plain hvalue.1 (ih hvalue.2 hrest)

theorem spells_of_encodes {text : List Char} {value : String} (h : Encodes text value)
    (hvalue : ∀ c ∈ value.toList, isIdentifierChar c = true) :
  Spells text value
  := spellsOctets_of_encodesOctets h hvalue

end TableGateway.Text
