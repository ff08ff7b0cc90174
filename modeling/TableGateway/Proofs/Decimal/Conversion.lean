import TableGateway.Decimal.Binary
import TableGateway.Proofs.Binary64.Rounding

/-!
# Decimals as floating-point numbers

The floating-point number of a decimal is finite, whatever the decimal is. The parts of a
decimal are rounded one after the other, so the number is not always the one nearest to the
decimal; but up to fifteen digits and twenty-two places the roundings between leave nothing
behind, and only the last one counts.
-/

namespace TableGateway.Decimal

open Binary64

/-! ### Finite numbers -/

/-- The number for the unit of the last place of a decimal is not too small. -/
theorem half_le_value_unit {k : Nat} (hk : k ≤ 28) :
  1 / 2 ≤ (ofInt (10 ^ k : Nat)).value
  := by
  have hone : (1 : Rat) ≤ ((10 ^ k : Nat) : Int) := by
    exact_mod_cast Nat.one_le_pow _ _ (by norm_num)
  have hgreatest : (((10 ^ k : Nat) : Int) : Rat) ≤ 2 ^ 100 := by
    calc (((10 ^ k : Nat) : Int) : Rat) ≤ ((10 ^ 28 : Nat) : Int) := by
          exact_mod_cast Nat.pow_le_pow_right (by norm_num) hk
      _ ≤ 2 ^ 100 := by norm_num
  have hleast : (1 : Rat) / 2 ^ 100 ≤ ((10 ^ k : Nat) : Int) := by
    apply le_trans _ hone
    norm_num
  have hnear := (abs_le.mp (value_ofRat_near_of_moderate hleast hgreatest)).1
  rw [ofInt]
  linarith

theorem isFinite_magnitudeBinary64 (d : Decimal) :
  d.magnitudeBinary64.isFinite = true
  := by
  have hunit : (10 : Nat) ^ d.scale ≤ 2 ^ 94 := by
    calc (10 : Nat) ^ d.scale ≤ 10 ^ 28 := Nat.pow_le_pow_right (by norm_num) d.scale_le
      _ ≤ 2 ^ 94 := by norm_num
  have hwhole : d.coefficient / 10 ^ d.scale ≤ 2 ^ 96 :=
    (Nat.div_le_self _ _).trans d.coefficient_lt.le
  have hrest : d.coefficient % 10 ^ d.scale ≤ 2 ^ 96 :=
    (Nat.mod_le _ _).trans d.coefficient_lt.le
  have hhalf := half_le_value_unit d.scale_le
  have hw := isBelow_ofInt (k := 96) (by norm_num) hwhole
  have hr := isBelow_ofInt (k := 96) (by norm_num) hrest
  have hu := isBelow_ofInt (k := 94) (by norm_num) hunit
  rw [magnitudeBinary64]
  dsimp only
  split
  · apply hw.finite
  · have hfraction := hr.div hhalf (by norm_num)
    have hw' : IsBelow (ofInt (d.coefficient / 10 ^ d.scale : Nat)) 99 :=
      ⟨hw.finite, hw.nonneg, hw.le.trans (by norm_num)⟩
    have hscaled := (hw'.add hfraction (by norm_num)).mul hu (by norm_num)
    apply ((hscaled.round (by norm_num)).div hhalf (by norm_num)).finite

/-- The number of a decimal is finite. -/
theorem isFinite_toBinary64 (d : Decimal) :
  d.toBinary64.isFinite = true
  := by
  rw [toBinary64]
  split
  · rw [isFinite_neg, isFinite_magnitudeBinary64]
  · apply isFinite_magnitudeBinary64

/-- A decimal is always shown as its number, and never as its text. -/
theorem toJson_eq (d : Decimal) :
  d.toJson = .number (.float d.toBinary64)
  := by
  rw [toJson, toBinary64?, Option.bind_some, Json.ofBinary64?, if_pos d.isFinite_toBinary64,
    Option.getD_some]

/-! ### The last rounding -/

/-- The roundings of a sum of a number and a fraction, and of its product with the unit, change
fifteen digits by less than half of one. -/
theorem abs_value_scaled_sub_lt
    {w p u : Rat} (hw : 0 ≤ w) (hp : 1 ≤ p) (hu : 1 ≤ u) (hle : u ≤ 10 ^ 22)
    (hsum : w * u + p ≤ 10 ^ 15) :
  |(ofRat ((ofRat (w + (ofRat (p / u)).value)).value * u)).value - (w * u + p)| < 1 / 2
  := by
  have hpos : 0 < u := by linarith
  have hwu : w ≤ w * u := le_mul_of_one_le_right hw hu
  -- The fraction.
  have hfractionlow : 1 / 10 ^ 22 ≤ p / u := by
    apply div_le_div₀ (by linarith) hp hpos hle
  have hfractionhigh : p / u ≤ p := div_le_self (by linarith) hu
  have hfraction := abs_le.mp
    (value_ofRat_near_of_moderate (r := p / u) (by linarith) (by linarith))
  have hcancel : p / u * u = p := div_mul_cancel₀ p hpos.ne'
  generalize p / u = q at *
  generalize (ofRat q).value = f at *
  -- The sum.
  have htotal := abs_le.mp (value_ofRat_near_of_moderate (r := w + f) (by linarith) (by linarith))
  generalize (ofRat (w + f)).value = s at *
  -- The product.
  have hflow := mul_le_mul_of_nonneg_right hfraction.1 hpos.le
  have hfhigh := mul_le_mul_of_nonneg_right hfraction.2 hpos.le
  have hslow := mul_le_mul_of_nonneg_right htotal.1 hpos.le
  have hshigh := mul_le_mul_of_nonneg_right htotal.2 hpos.le
  have hproductlow : (1 : Rat) / 2 ≤ s * u := by linarith
  have hproduct := abs_le.mp (value_ofRat_near_of_moderate (r := s * u) (by linarith) (by linarith))
  rw [abs_lt]
  constructor <;> linarith

/-- The number of a decimal of fifteen digits and twenty-two places is the nearest one. -/
theorem magnitudeBinary64_eq
    {d : Decimal} (hdigits : d.coefficient < 10 ^ 15) (hplaces : d.scale ≤ 22) :
  d.magnitudeBinary64 = ofRat ((d.coefficient : Rat) / 10 ^ d.scale)
  := by
  have hbits : (10 : Nat) ^ 15 < 2 ^ 53 := by norm_num
  have hunit : (0 : Rat) < 10 ^ d.scale := by positivity
  have hsum : ((d.coefficient / 10 ^ d.scale : Nat) : Rat) * 10 ^ d.scale
      + (d.coefficient % 10 ^ d.scale : Nat) = d.coefficient := by
    exact_mod_cast Nat.div_add_mod' d.coefficient (10 ^ d.scale)
  rw [magnitudeBinary64]
  dsimp only
  split
  · rename_i hrest
    rw [hrest, Nat.cast_zero, add_zero] at hsum
    rw [ofInt, ← hsum, mul_div_cancel_right₀ _ hunit.ne']
    rfl
  · rename_i hrest
    have hwhole : (ofInt (d.coefficient / 10 ^ d.scale : Nat)).value
        = (d.coefficient / 10 ^ d.scale : Nat) := by
      apply value_ofInt_natCast
      have hle := Nat.div_le_self d.coefficient (10 ^ d.scale)
      omega
    have hpart : (ofInt (d.coefficient % 10 ^ d.scale : Nat)).value
        = (d.coefficient % 10 ^ d.scale : Nat) := by
      apply value_ofInt_natCast
      have hle := Nat.mod_le d.coefficient (10 ^ d.scale)
      omega
    have hnear := abs_value_scaled_sub_lt
      (Nat.cast_nonneg (d.coefficient / 10 ^ d.scale))
      (p := (d.coefficient % 10 ^ d.scale : Nat))
      (by exact_mod_cast Nat.one_le_iff_ne_zero.mpr hrest)
      (one_le_pow₀ (by norm_num)) (pow_le_pow_right₀ (by norm_num) hplaces)
      (by rw [hsum]; exact_mod_cast hdigits.le)
    rw [hsum] at hnear
    have hround : ((((ofInt (d.coefficient / 10 ^ d.scale : Nat)).add
        ((ofInt (d.coefficient % 10 ^ d.scale : Nat)).div (ofInt (10 ^ d.scale : Nat)))).mul
        (ofInt (10 ^ d.scale : Nat))).round) = ofInt d.coefficient := by
      rw [Binary64.round, mul, add, div, hwhole, hpart, value_ofInt_ten_pow hplaces]
      congr 1
      obtain ⟨hlow, hhigh⟩ := abs_lt.mp hnear
      change ⌊(_ : Rat)⌋ = _
      apply Int.floor_eq_iff.mpr
      rw [Int.cast_natCast]
      constructor <;> linarith
    rw [hround, div, value_ofInt_natCast (hdigits.trans hbits), value_ofInt_ten_pow hplaces]

end TableGateway.Decimal
