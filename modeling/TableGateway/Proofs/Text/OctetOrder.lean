import Mathlib.Tactic.SplitIfs
import TableGateway.Text.Percent

/-!
# The order of texts and of their octets

Texts are ordered by the first character in which they differ. Their UTF-8 forms are
ordered by the first octet in which they differ, and the two orders agree: a character of
a smaller code point has the smaller form, whatever follows either.
-/

namespace TableGateway.Text

/-- The first of four digits to the base 64 in which two numbers differ decides which of
them is smaller. -/
theorem digits_lt_digits {v w : Nat} (h : v < w) :
  v / 262144 < w / 262144 ∨ v / 262144 = w / 262144 ∧
    (v / 4096 % 64 < w / 4096 % 64 ∨ v / 4096 % 64 = w / 4096 % 64 ∧
      (v / 64 % 64 < w / 64 % 64 ∨ v / 64 % 64 = w / 64 % 64 ∧ v % 64 < w % 64))
  := by
  omega

/-- The form of a smaller character comes first, and is not the beginning of the other. -/
theorem utf8EncodeChar_append_lt {c d : Char} (h : c < d) (rest others : List UInt8) :
  String.utf8EncodeChar c ++ rest < String.utf8EncodeChar d ++ others
  := by
  have hlt : c.val.toNat < d.val.toNat := h
  have hmax : d.val.toNat < 0x110000 := by
    rcases d.valid with hd | hd
    · omega
    · omega
  have hdigits := digits_lt_digits hlt
  simp only [String.utf8EncodeChar]
  generalize c.val.toNat = v at *
  generalize d.val.toNat = w at *
  -- A longer form begins with a greater octet; forms of one length hold the digits of the
  -- code points, beginning with the first.
  split_ifs
  all_goals
    simp only [List.cons_append, List.cons_lt_cons_iff, UInt8.lt_iff_toNat_lt, ← UInt8.toNat_inj,
      UInt8.toNat_ofNat']
    simp (disch := omega) only [Nat.mod_eq_of_lt, Nat.add_lt_add_iff_right,
      Nat.add_right_cancel_iff]
    omega

theorem utf8Octets_lt_utf8Octets {first second : List Char} (h : first < second) :
  utf8Octets first < utf8Octets second
  := by
  induction second generalizing first with
  | nil => cases List.not_lt_nil first h
  | cons d second ih =>
      cases first with
      | nil =>
          rw [utf8Octets, utf8Octets, List.flatMap_nil, List.flatMap_cons]
          obtain ⟨octet, octets, hoctets⟩ :=
            List.exists_cons_of_ne_nil (String.utf8EncodeChar_ne_nil (c := d))
          rw [hoctets, List.cons_append]
          apply List.nil_lt_cons
      | cons c first =>
          rw [utf8Octets, utf8Octets, List.flatMap_cons, List.flatMap_cons]
          rcases List.cons_lt_cons_iff.mp h with hlt | ⟨rfl, hlt⟩
          · apply utf8EncodeChar_append_lt hlt
          · apply List.append_left_lt
            apply ih hlt

/-- The order of texts is the order of the octets of their UTF-8 forms. -/
theorem utf8Octets_lt_utf8Octets_iff {first second : String} :
  utf8Octets first.toList < utf8Octets second.toList ↔ first < second
  := by
  constructor
  · intro h
    rcases Decidable.em (first < second) with hlt | hnot
    · apply hlt
    · -- A text that is not smaller is the same or greater, and so are its octets.
      rcases Decidable.em (second < first) with hgt | hle
      · cases List.lt_asymm h (utf8Octets_lt_utf8Octets hgt)
      · obtain rfl := String.le_antisymm hle hnot
        cases List.lt_irrefl _ h
  · apply utf8Octets_lt_utf8Octets

end TableGateway.Text
