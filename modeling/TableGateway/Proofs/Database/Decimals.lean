import TableGateway.Database.Binding
import TableGateway.Database.Cell
import TableGateway.Proofs.Decimal.Conversion
import TableGateway.Proofs.Decimal.Reading

/-!
# Decimals through the gateway

A decimal is shown as a JSON number whatever it is, since the floating-point number near to it
is finite. Bound to a column of decimals, the text of that number is read as a decimal again:
up to fifteen digits and twenty-two places it is the decimal that was shown, and beyond them it
need not be.
-/

namespace TableGateway

open Binary64

namespace Decimal

/-! ### The number that is shown -/

/-- The shortest decimal does not depend on the sign. -/
theorem shortest_of_magnitudeBits {x y : Binary64} (h : x.magnitudeBits = y.magnitudeBits) :
  x.shortest = y.shortest
  := by
  have hsignificand : x.significand = y.significand := by
    rw [significand, significand, h]
  have hmagnitude : x.magnitude = y.magnitude := by
    rw [magnitude, magnitude, hsignificand]
  have hroundsTo : x.roundsTo = y.roundsTo := by
    funext r
    rw [roundsTo, roundsTo, interval, interval, hsignificand]
  have hdigits : x.withDigits? = y.withDigits? := by
    funext point count
    rw [withDigits?, withDigits?, hmagnitude, hroundsTo]
  rw [shortest, shortest, hmagnitude, hdigits]

theorem isNegative_ofRat_of_pos {r : Rat} (hr : 0 < r) (hlt : r < 2 ^ (1000 : Int)) :
  (ofRat r).isNegative = false
  := by
  obtain ⟨-, -, -, -, -, hsign⟩ := exists_roundsTo hr hlt
  apply hsign

/-- A number that is rounded from a number that is not small is not zero. -/
theorem magnitudeBits_ofRat_ne_zero {r : Rat} (hr : 1 / 2 ^ 100 ≤ r) (hle : r ≤ 2 ^ 100) :
  (ofRat r).magnitudeBits ≠ 0
  := by
  intro hzero
  have hpos : (0 : Rat) < 1 / 2 ^ 100 := by norm_num
  have hsignificand : (ofRat r).significand = (0, -1074) := by
    rw [significand, hzero]
    rfl
  have hvalue : (ofRat r).value = 0 := by
    rw [Binary64.value, magnitude_of_significand hsignificand]
    simp
  have hnear := (abs_le.mp (value_ofRat_near_of_moderate hr hle)).1
  rw [hvalue] at hnear
  linarith

/-- A decimal of few digits that is not zero is shown by the digits that write it. -/
theorem exists_fits_shortest
    {d : Decimal} (hne : d.coefficient ≠ 0) (hdigits : d.coefficient < 10 ^ 15)
    (hplaces : d.scale ≤ 22) :
  ∃ digits, d.toBinary64.shortest = digits ∧ digits.Writes ((d.coefficient : Rat) / 10 ^ d.scale)
    ∧ d.toBinary64.magnitudeBits ≠ 0 ∧ d.toBinary64.isNegative = d.negative
  := by
  have heq := magnitudeBinary64_eq hdigits hplaces
  have hwrites := writes_shortest (Nat.pos_of_ne_zero hne) hdigits hplaces
  have hpos := Nat.pos_of_ne_zero hne
  obtain ⟨hlow, hhigh⟩ := moderate_of_digits hpos hdigits hplaces
  have hpositive : 0 < (d.coefficient : Rat) / 10 ^ d.scale := by positivity
  have hsign := isNegative_ofRat_of_pos hpositive (lt_of_le_two_pow hhigh)
  have hnonzero := magnitudeBits_ofRat_ne_zero hlow hhigh
  rw [← heq] at hwrites hsign hnonzero
  rw [toBinary64]
  cases hnegative : d.negative with
  | false => exact ⟨_, rfl, hwrites, hnonzero, hsign⟩
  | true =>
      rw [if_pos rfl, isNegative_neg, hsign, magnitudeBits_neg]
      exact ⟨_, shortest_of_magnitudeBits (magnitudeBits_neg _), hwrites, hnonzero, rfl⟩

/-! ### The text of the number -/

/-- A zero is shown as a zero with a place, whatever its sign. -/
theorem readsAs_zero (negative : Bool) :
  ReadsAs (signText negative ++ ['0', '.', '0']) 0
  := by
  cases negative with
  | false => exact ⟨⟨false, 0, 1, by decide, by decide⟩, by decide +kernel, by decide +kernel⟩
  | true => exact ⟨⟨false, 0, 1, by decide, by decide⟩, by decide +kernel, by decide +kernel⟩

/-- The text of the number for a decimal of fifteen digits and twenty-two places is read as the
decimal. -/
theorem readsAs_floatText
    {d : Decimal} (hdigits : d.coefficient < 10 ^ 15) (hplaces : d.scale ≤ 22) :
  ReadsAs (Json.floatText d.toBinary64).toList d.value
  := by
  rw [Json.floatText, isFinite_toBinary64, if_neg (by simp)]
  dsimp only
  by_cases hzero : d.coefficient = 0
  · have hbits : d.toBinary64.magnitudeBits = 0 := by
      have hmagnitude : d.magnitudeBinary64.magnitudeBits = 0 := by
        rw [magnitudeBinary64_eq hdigits hplaces, hzero, Nat.cast_zero, zero_div]
        decide +kernel
      rw [toBinary64]
      split
      · rw [magnitudeBits_neg, hmagnitude]
      · apply hmagnitude
    have hvalue : d.value = 0 := by
      rw [value, hzero]
      simp
    rw [if_pos hbits, String.toList_ofList, hvalue]
    apply readsAs_zero
  · obtain ⟨digits, hshortest, hwrites, hbits, hsign⟩ := exists_fits_shortest hzero hdigits hplaces
    have hfits := fits_of_writes hdigits hwrites
    have hvalue : d.value = signed d.negative digits.value := by
      rw [hwrites.value]
      rfl
    have hpoint := hfits.point
    rw [if_neg hbits, String.toList_ofList, hshortest, hsign, hvalue, ← signText]
    split
    · rename_i hnear
      apply readsAs_positional _ hwrites.isDigit hfits hplaces hnear.1
    · rename_i hfar
      apply readsAs_scientific _ hwrites.isDigit hfits hplaces
      omega

end Decimal

/-! ### Decimals that come back -/

namespace Argument

open Decimal

/-- A decimal that is shown is bound as the decimal that its text writes. -/
theorem bind?_toJson (d : Decimal) :
  bind? ⟨d.toJson, .decimal⟩
    = ((Decimal.ofText? (Json.floatText d.toBinary64).toList).map
      Parameter.Value.decimal).map .value
  := by
  rw [d.toJson_eq]
  rfl

/-- Every decimal is shown as a finite number, and never as a string. One of fifteen digits and
twenty-two places, bound to a column of decimals as it is shown, is a decimal of its value. -/
theorem decimal_shown_and_bound (d : Decimal) :
  (∃ x, d.toJson = .number (.float x) ∧ x.isFinite = true)
    ∧ (d.coefficient < 10 ^ 15 → d.scale ≤ 22 →
        ∃ e, bind? ⟨d.toJson, .decimal⟩ = some (.value (.decimal e)) ∧ e.value = d.value)
  := by
  constructor
  · use d.toBinary64, d.toJson_eq
    apply isFinite_toBinary64
  · intro hdigits hplaces
    obtain ⟨e, hread, hvalue⟩ := readsAs_floatText hdigits hplaces
    refine ⟨e, ?_, hvalue⟩
    rw [bind?_toJson, hread]
    rfl

/-- A price comes back as it was shown. -/
theorem decimal_shown_and_bound_price :
  (1999 : Nat) < 10 ^ 15 ∧ 2 ≤ 22
    ∧ ∃ e, bind? ⟨(⟨true, 1999, 2, by decide, by decide⟩ : Decimal).toJson, .decimal⟩
        = some (.value (.decimal e)) ∧ e.value = -1999 / 100
  := by
  have hdigits : (1999 : Nat) < 10 ^ 15 := by decide
  have hplaces : 2 ≤ 22 := by decide
  refine ⟨hdigits, hplaces, ?_⟩
  obtain ⟨e, hbind, hvalue⟩ :=
    (decimal_shown_and_bound ⟨true, 1999, 2, by decide, by decide⟩).2 hdigits hplaces
  refine ⟨e, hbind, ?_⟩
  rw [hvalue]
  decide +kernel

/-- The first integer that is no floating-point number is bound as the one before it, and the
greatest decimal is not taken at all. -/
theorem decimal_changed :
  (∃ e, bind? ⟨(⟨false, 9007199254740993, 0, by decide, by decide⟩ : Decimal).toJson, .decimal⟩
      = some (.value (.decimal e)) ∧ e.value = 9007199254740992)
    ∧ bind? ⟨(⟨false, 2 ^ 96 - 1, 0, by decide, by decide⟩ : Decimal).toJson, .decimal⟩ = none
  := by
  constructor
  · use ⟨false, 90071992547409920, 1, by decide, by decide⟩
    constructor
    · have hread : Decimal.ofText? (Json.floatText
          (⟨false, 9007199254740993, 0, by decide, by decide⟩ : Decimal).toBinary64).toList
          = some ⟨false, 90071992547409920, 1, by decide, by decide⟩ := by
        decide +kernel
      rw [bind?_toJson, hread]
      rfl
    · decide +kernel
  · have hread : Decimal.ofText? (Json.floatText
        (⟨false, 2 ^ 96 - 1, 0, by decide, by decide⟩ : Decimal).toBinary64).toList = none := by
      decide +kernel
    rw [bind?_toJson, hread]
    rfl

end Argument

end TableGateway
