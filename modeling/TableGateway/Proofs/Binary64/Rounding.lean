import Mathlib.Algebra.Order.Field.Power
import Mathlib.Data.Rat.Floor
import Mathlib.Tactic.FieldSimp
import Mathlib.Tactic.Linarith
import Mathlib.Tactic.NormNum
import Mathlib.Tactic.Positivity
import Mathlib.Tactic.Ring
import Mathlib.Tactic.Use
import TableGateway.Binary64.Shortest

/-!
# Rounding to floating-point numbers

A rational is rounded to the nearest number of fifty-three bits at its scale, which is the
scale at which its integer part has fifty-three bits. So the result differs from the rational
by at most half a unit of the last bit, that is by at most the `2 ^ 53`-th part of it unless
it is very small, and a rational that has only fifty-three bits is not changed.
-/

namespace TableGateway.Binary64

/-! ### Nearest integers -/

/-- A number is rounded by no more than a half. -/
theorem roundHalfEven_near {r : Rat} (h : 0 ≤ r) :
  |(roundHalfEven r : Rat) - r| ≤ 1 / 2
  := by
  have hlow : (r.floor.toNat : Rat) ≤ r := Nat.floor_le h
  have hhigh : r < (r.floor.toNat : Rat) + 1 := Nat.lt_floor_add_one r
  rw [roundHalfEven, abs_le]
  split
  · rename_i hup
    have hrest : 1 / 2 ≤ r - (r.floor.toNat : Rat) := by
      rcases hup with hup | hup
      · apply hup.le
      · apply hup.1.ge
    push_cast
    constructor <;> linarith
  · rename_i hdown
    have hrest := not_lt.mp (not_or.mp hdown).1
    constructor <;> linarith

/-- Halfway between two integers, the even one is taken. -/
theorem roundHalfEven_even {r : Rat} (h : 0 ≤ r) (hhalf : |(roundHalfEven r : Rat) - r| = 1 / 2) :
  roundHalfEven r % 2 = 0
  := by
  have hhigh : r < (r.floor.toNat : Rat) + 1 := Nat.lt_floor_add_one r
  have hlow : (r.floor.toNat : Rat) ≤ r := Nat.floor_le h
  rw [roundHalfEven] at hhalf ⊢
  split
  · rename_i hup
    rw [if_pos hup, abs_of_nonneg (by push_cast; linarith)] at hhalf
    push_cast at hhalf
    rcases hup with hup | hup
    · linarith
    · omega
  · rename_i hdown
    rw [if_neg hdown, abs_of_nonpos (by linarith)] at hhalf
    have hrest : r - (r.floor.toNat : Rat) = 1 / 2 := by linarith
    have hodd := not_and.mp (not_or.mp hdown).2 hrest
    omega

/-- Rounding does not fall below an integer. -/
theorem le_roundHalfEven {r : Rat} {n : Nat} (h : (n : Rat) ≤ r) :
  n ≤ roundHalfEven r
  := by
  have hfloor : n ≤ r.floor.toNat := Nat.le_floor h
  rw [roundHalfEven]
  split <;> omega

/-- Rounding does not rise above an integer. -/
theorem roundHalfEven_le {r : Rat} (h : 0 ≤ r) {n : Nat} (hn : r < (n : Rat)) :
  roundHalfEven r ≤ n
  := by
  have hfloor : r.floor.toNat < n := (Nat.floor_lt h).mpr hn
  rw [roundHalfEven]
  split <;> omega

/-- Only the nearest integer is nearer than one half. -/
theorem roundHalfEven_eq {r : Rat} (h : 0 ≤ r) {n : Nat} (hn : |r - (n : Rat)| < 1 / 2) :
  roundHalfEven r = n
  := by
  have hnear := abs_le.mp (roundHalfEven_near h)
  rw [abs_lt] at hn
  have hlow : (n : Rat) < (roundHalfEven r : Rat) + 1 := by linarith [hn.2]
  have hhigh : (roundHalfEven r : Rat) < (n : Rat) + 1 := by linarith [hn.1]
  norm_cast at hlow hhigh
  omega

/-! ### The scale of a rational -/

/-- A quotient lies between powers of two that the lengths of its terms give. -/
theorem two_pow_lt_div {n d : Nat} (hn : n ≠ 0) (hd : d ≠ 0) :
  (2 : Rat) ^ ((n.log2 : Int) - d.log2 - 1) < (n : Rat) / d
    ∧ (n : Rat) / d < 2 ^ ((n.log2 : Int) - d.log2 + 1)
  := by
  have hpos : (0 : Rat) < d := by exact_mod_cast Nat.pos_of_ne_zero hd
  have hnlow : (2 : Rat) ^ n.log2 ≤ n := by exact_mod_cast Nat.log2_self_le hn
  have hnhigh : (n : Rat) < 2 ^ (n.log2 + 1) := by exact_mod_cast Nat.lt_log2_self
  have hdlow : (2 : Rat) ^ d.log2 ≤ d := by exact_mod_cast Nat.log2_self_le hd
  have hdhigh : (d : Rat) < 2 ^ (d.log2 + 1) := by exact_mod_cast Nat.lt_log2_self
  have htwo : (2 : Rat) ≠ 0 := by norm_num
  constructor
  · rw [lt_div_iff₀ hpos]
    calc (2 : Rat) ^ ((n.log2 : Int) - d.log2 - 1) * d
        < 2 ^ ((n.log2 : Int) - d.log2 - 1) * 2 ^ (d.log2 + 1) := by
          apply mul_lt_mul_of_pos_left hdhigh
          positivity
      _ = 2 ^ n.log2 := by
          rw [← zpow_natCast, ← zpow_natCast, ← zpow_add₀ htwo]
          congr 1
          omega
      _ ≤ n := hnlow
  · rw [div_lt_iff₀ hpos]
    calc (n : Rat) < 2 ^ (n.log2 + 1) := hnhigh
      _ = 2 ^ ((n.log2 : Int) - d.log2 + 1) * 2 ^ d.log2 := by
          rw [← zpow_natCast, ← zpow_natCast, ← zpow_add₀ htwo]
          congr 1
          omega
      _ ≤ 2 ^ ((n.log2 : Int) - d.log2 + 1) * d := by
          apply mul_le_mul_of_nonneg_left hdlow
          positivity

theorem num_toNat_ne_zero {r : Rat} (hr : 0 < r) :
  r.num.toNat ≠ 0
  := by
  have hnum : 0 < r.num := Rat.num_pos.mpr hr
  omega

theorem num_toNat_div_den {r : Rat} (hr : 0 < r) :
  (r.num.toNat : Rat) / r.den = r
  := by
  have hnum : 0 < r.num := Rat.num_pos.mpr hr
  conv_rhs => rw [← Rat.num_div_den r]
  rw [← Int.cast_natCast, Int.toNat_of_nonneg hnum.le]

/-- A scale at which a rational has an integer part of fifty-three bits, or fewer at the least
scale. -/
structure IsScale (r : Rat) (e : Int) : Prop where
  least : -1074 ≤ e
  below : r < 2 ^ (53 : Int) * 2 ^ e
  above : e = -1074 ∨ 2 ^ (52 : Int) * 2 ^ e ≤ r

/-- The scale that is taken for a positive rational is one of it. -/
theorem isScale_scaleOf {r : Rat} (hr : 0 < r) :
  IsScale r (scaleOf r)
  := by
  have htwo : (2 : Rat) ≠ 0 := by norm_num
  obtain ⟨hlow, hhigh⟩ := two_pow_lt_div (num_toNat_ne_zero hr) r.den_nz
  rw [num_toNat_div_den hr] at hlow hhigh
  -- The scale before it is raised to the least one.
  have hfound : ∃ e, scaleOf r = max e (-1074) ∧ r < 2 ^ (53 : Int) * 2 ^ e
      ∧ 2 ^ (52 : Int) * 2 ^ e ≤ r := by
    rw [scaleOf]
    simp only [← zpow_add₀ htwo]
    split
    · rename_i hup
      refine ⟨_, rfl, ?_, ?_⟩
      · apply hhigh.trans_eq
        congr 1
        omega
      · rw [zpow_neg, le_mul_inv_iff₀ (by positivity), ← zpow_add₀ htwo] at hup
        apply le_trans (le_of_eq _) hup
        congr 1
        omega
    · rename_i hdown
      rw [zpow_neg, not_le, mul_inv_lt_iff₀ (by positivity), ← zpow_add₀ htwo] at hdown
      refine ⟨_, rfl, hdown, ?_⟩
      apply le_trans (le_of_eq _) hlow.le
      congr 1
      omega
  obtain ⟨e, heq, hbelow, habove⟩ := hfound
  rw [heq]
  constructor
  · apply le_max_right
  · apply hbelow.trans_le
    apply mul_le_mul_of_nonneg_left _ (by positivity)
    apply zpow_le_zpow_right₀ (by norm_num) (le_max_left _ _)
  · rcases le_total e (-1074) with hle | hge
    · left
      apply max_eq_right hle
    · right
      rw [max_eq_left hge]
      apply habove

/-! ### The parts of a number -/

theorem toNat_ofMagnitude {negative : Bool} {b : Nat} (h : b < 2 ^ 63) :
  (ofMagnitude negative b).bits.toNat = if negative then 2 ^ 63 + b else b
  := by
  rw [ofMagnitude, UInt64.toNat_ofNat_of_lt']
  rw [UInt64.size]
  split <;> omega

/-- The bits of a magnitude are those that it was made of. -/
theorem magnitudeBits_ofMagnitude {negative : Bool} {b : Nat} (h : b < 2 ^ 63) :
  (ofMagnitude negative b).magnitudeBits = b
  := by
  rw [magnitudeBits, toNat_ofMagnitude h]
  split <;> omega

theorem isNegative_ofMagnitude {negative : Bool} {b : Nat} (h : b < 2 ^ 63) :
  (ofMagnitude negative b).isNegative = negative
  := by
  rw [isNegative, toNat_ofMagnitude h]
  cases negative with
  | false => simpa using h
  | true => simp

/-- The bits of a number are its scale, counted from the least one, and its integer. -/
theorem significand_of_magnitudeBits
    {x : Binary64} {m : Nat} {e : Int} (he : -1074 ≤ e) (hm : m < 2 ^ 53)
    (hnormal : e = -1074 ∨ 2 ^ 52 ≤ m) (hx : x.magnitudeBits = (e + 1074).toNat * 2 ^ 52 + m) :
  x.significand = (m, e)
  := by
  rw [significand, hx]
  by_cases hsmall : m < 2 ^ 52
  · obtain rfl : e = -1074 := by omega
    have hdiv : ((-1074 + 1074 : Int).toNat * 2 ^ 52 + m) / 2 ^ 52 = 0 := by omega
    have hmod : ((-1074 + 1074 : Int).toNat * 2 ^ 52 + m) % 2 ^ 52 = m := by omega
    simp only [hdiv, hmod, ↓reduceIte]
  · have hdiv : ((e + 1074).toNat * 2 ^ 52 + m) / 2 ^ 52 = (e + 1074).toNat + 1 := by omega
    have hmod : ((e + 1074).toNat * 2 ^ 52 + m) % 2 ^ 52 = m - 2 ^ 52 := by omega
    simp only [hdiv, hmod, Nat.succ_ne_zero, ↓reduceIte, Prod.mk.injEq]
    omega

theorem magnitude_of_significand {x : Binary64} {m : Nat} {e : Int} (h : x.significand = (m, e)) :
  x.magnitude = (m : Rat) * 2 ^ e
  := by
  rw [magnitude, h]

/-! ### Rounding -/

/-- A rational that is rounded to `m * 2 ^ e`. -/
structure RoundsTo (r : Rat) (m : Nat) (e : Int) : Prop where
  least : -1074 ≤ e
  lt : m < 2 ^ 53
  normal : e = -1074 ∨ 2 ^ 52 ≤ m
  near : |r - (m : Rat) * 2 ^ e| ≤ 2 ^ e / 2
  even : |r - (m : Rat) * 2 ^ e| = 2 ^ e / 2 → m % 2 = 0
  -- The numbers below a power of two are twice as dense.
  lower : m = 2 ^ 52 → -1074 < e → (m : Rat) * 2 ^ e - r ≤ 2 ^ e / 4
  relative : 2 ^ (-1022 : Int) ≤ r → |r - (m : Rat) * 2 ^ e| ≤ r / 2 ^ (53 : Int)

theorem IsScale.relative
    {r : Rat} {e : Int} (h : IsScale r e) (hr : 2 ^ (-1022 : Int) ≤ r) :
  2 ^ e / 2 ≤ r / 2 ^ (53 : Int)
  := by
  have hunit : (2 : Rat) ^ (52 : Int) * 2 ^ e ≤ r := by
    rcases h.above with rfl | habove
    · apply le_trans (le_of_eq _) hr
      rw [← zpow_add₀ (by norm_num)]
      norm_num
    · apply habove
  rw [le_div_iff₀ (by positivity)]
  calc (2 : Rat) ^ e / 2 * 2 ^ (53 : Int) = 2 ^ (52 : Int) * 2 ^ e := by ring
    _ ≤ r := hunit

/-- Rounding at the scale of a rational, before a carry into the next scale. -/
theorem abs_sub_roundHalfEven_mul
    {r : Rat} {e : Int} (hr : 0 ≤ r) {m : Nat}
    (hm : m = roundHalfEven (r * 2 ^ (-e))) :
  |r - (m : Rat) * 2 ^ e| ≤ 2 ^ e / 2
    ∧ (|r - (m : Rat) * 2 ^ e| = 2 ^ e / 2 → m % 2 = 0)
  := by
  have hpos : (0 : Rat) < 2 ^ e := by positivity
  have hquotient : 0 ≤ r * 2 ^ (-e) := by positivity
  have hscaled : |r - (m : Rat) * 2 ^ e| = |(m : Rat) - r * 2 ^ (-e)| * 2 ^ e := by
    rw [← abs_of_pos hpos, ← abs_mul, abs_of_pos hpos, abs_sub_comm, zpow_neg]
    congr 1
    field_simp
  rw [hscaled, hm]
  constructor
  · have hnear := roundHalfEven_near hquotient
    calc _ ≤ 1 / 2 * (2 : Rat) ^ e := mul_le_mul_of_nonneg_right hnear hpos.le
      _ = 2 ^ e / 2 := by ring
  · intro heq
    apply roundHalfEven_even hquotient
    apply mul_right_cancel₀ hpos.ne'
    rw [heq]
    ring

section

variable {r : Rat} {m : Nat} {e : Int} (hr : 0 < r) (hscale : IsScale r e)
  (hm : m = roundHalfEven (r * 2 ^ (-e)))

include hr hscale hm

/-- The integer at the scale has fifty-three bits, or is the power of two after those. -/
theorem IsScale.bounds :
  m ≤ 2 ^ 53 ∧ (e = -1074 ∨ 2 ^ 52 ≤ m)
  := by
  have hpos : (0 : Rat) < 2 ^ e := by positivity
  have hquotient : 0 ≤ r * 2 ^ (-e) := by positivity
  constructor
  · rw [hm]
    apply roundHalfEven_le hquotient
    rw [zpow_neg, mul_inv_lt_iff₀ hpos]
    exact_mod_cast hscale.below
  · apply hscale.above.imp_right
    intro habove
    rw [hm]
    apply le_roundHalfEven
    rw [zpow_neg, le_mul_inv_iff₀ hpos]
    exact_mod_cast habove

/-- An integer of fifty-three bits is what the rational is rounded to. -/
theorem IsScale.roundsTo (hlt : m < 2 ^ 53) :
  RoundsTo r m e
  := by
  obtain ⟨hnear, heven⟩ := abs_sub_roundHalfEven_mul hr.le hm
  refine ⟨hscale.least, hlt, (hscale.bounds hr hm).2, hnear, heven, ?_,
    fun hnormal => hnear.trans (hscale.relative hnormal)⟩
  intro hleast hnormal
  have habove := hscale.above.resolve_left hnormal.ne'
  rw [hleast]
  have hzero : ((2 ^ 52 : Nat) : Rat) * 2 ^ e - r ≤ 0 := by
    push_cast
    rw [sub_nonpos]
    exact_mod_cast habove
  apply hzero.trans
  positivity

/-- The power of two after the integers of fifty-three bits carries into the next scale. -/
theorem IsScale.roundsTo_carry (heq : m = 2 ^ 53) :
  RoundsTo r (2 ^ 52) (e + 1)
  := by
  obtain ⟨hnear, -⟩ := abs_sub_roundHalfEven_mul hr.le hm
  have hpos : (0 : Rat) < 2 ^ e := by positivity
  have hnext : ((2 ^ 53 : Nat) : Rat) * 2 ^ e = ((2 ^ 52 : Nat) : Rat) * 2 ^ (e + 1) := by
    rw [zpow_add₀ (by norm_num), zpow_one]
    push_cast
    ring
  have hdouble : (2 : Rat) ^ (e + 1) = 2 * 2 ^ e := by
    rw [zpow_add₀ (by norm_num), zpow_one, mul_comm]
  have hleast := hscale.least
  rw [heq, hnext] at hnear
  refine ⟨by omega, by norm_num, .inr le_rfl, ?_, fun _ => by norm_num, ?_,
    fun hnormal => hnear.trans (hscale.relative hnormal)⟩
  · linarith
  · intro _ _
    have hbound := (abs_le.mp hnear).1
    linarith

omit hr hm in
/-- A rational that is not too great has a scale that is not too great. -/
theorem IsScale.lt (hlt : r < 2 ^ (1000 : Int)) :
  e < 948
  := by
  rcases hscale.above with rfl | habove
  · norm_num
  · have htwo : (1 : Rat) < 2 := by norm_num
    have hpower := habove.trans_lt hlt
    rw [← zpow_add₀ (by norm_num), zpow_lt_zpow_iff_right₀ htwo] at hpower
    omega

end

/-- A positive rational that is not too great is rounded to a finite number. -/
theorem exists_roundsTo {r : Rat} (hr : 0 < r) (hlt : r < 2 ^ (1000 : Int)) :
  ∃ m e, RoundsTo r m e ∧ (ofRat r).significand = (m, e) ∧ (ofRat r).isFinite = true
    ∧ (ofRat r).isNegative = false
  := by
  have hscale := isScale_scaleOf hr
  generalize heq : scaleOf r = e at hscale
  generalize hm : roundHalfEven (r * 2 ^ (-e)) = m
  obtain ⟨hle, hge⟩ := hscale.bounds hr hm.symm
  have hgreatest := hscale.lt hlt
  have hleast := hscale.least
  have hrounded : ofRat r = ofMagnitude false ((e + 1074).toNat * 2 ^ 52 + m) := by
    rw [ofRat, if_neg (not_lt.mpr hr.le), magnitudeOfRat, if_neg (not_le.mpr hr), heq]
    dsimp only
    rw [hm, infinityBits, Nat.min_eq_left]
    omega
  have hbits : (e + 1074).toNat * 2 ^ 52 + m < 2 ^ 63 := by omega
  have hmagnitude : (ofRat r).magnitudeBits = (e + 1074).toNat * 2 ^ 52 + m := by
    rw [hrounded, magnitudeBits_ofMagnitude hbits]
  have hfinite : (ofRat r).isFinite = true := by
    rw [isFinite, hmagnitude, infinityBits, decide_eq_true_eq]
    omega
  have hsign : (ofRat r).isNegative = false := by
    rw [hrounded, isNegative_ofMagnitude hbits]
  rcases hle.lt_or_eq with hless | hcarry
  · use m, e, hscale.roundsTo hr hm.symm hless,
      significand_of_magnitudeBits hleast hless hge hmagnitude, hfinite, hsign
  · refine ⟨2 ^ 52, e + 1, hscale.roundsTo_carry hr hm.symm hcarry, ?_, hfinite, hsign⟩
    apply significand_of_magnitudeBits (by omega) (by norm_num) (.inr le_rfl)
    rw [hmagnitude, hcarry]
    omega

/-- The value of a number is its significand times a power of two. -/
theorem value_of_significand
    {x : Binary64} {m : Nat} {e : Int} (h : x.significand = (m, e)) (hsign : x.isNegative = false) :
  x.value = (m : Rat) * 2 ^ e
  := by
  rw [value, hsign, magnitude_of_significand h]
  rfl

/-- Rounding changes a rational by at most its `2 ^ 53`-th part. -/
theorem value_ofRat_near
    {r : Rat} (hr : 2 ^ (-1022 : Int) ≤ r) (hlt : r < 2 ^ (1000 : Int)) :
  |(ofRat r).value - r| ≤ r / 2 ^ (53 : Int)
  := by
  have hpos : 0 < r := lt_of_lt_of_le (by positivity) hr
  obtain ⟨m, e, hround, hsignificand, -, hsign⟩ := exists_roundsTo hpos hlt
  rw [value_of_significand hsignificand hsign, abs_sub_comm]
  apply hround.relative hr

theorem lt_of_le_two_pow {r : Rat} (h : r ≤ 2 ^ 100) :
  r < 2 ^ (1000 : Int)
  := by
  apply h.trans_lt
  rw [← zpow_natCast]
  apply zpow_lt_zpow_right₀ (by norm_num) (by norm_num)

/-- A rational that is neither great nor small is rounded by little. -/
theorem value_ofRat_near_of_moderate {r : Rat} (hr : 1 / 2 ^ 100 ≤ r) (hle : r ≤ 2 ^ 100) :
  |(ofRat r).value - r| ≤ r / 2 ^ 53
  := by
  have hleast : (2 : Rat) ^ (-1022 : Int) ≤ 1 / 2 ^ 100 := by
    rw [one_div, ← zpow_natCast, ← zpow_neg]
    apply zpow_le_zpow_right₀ (by norm_num) (by norm_num)
  apply value_ofRat_near (hleast.trans hr) (lt_of_le_two_pow hle)

/-- An integer of fifty-three bits is not changed at a scale that it has. -/
theorem RoundsTo.eq_of_representable
    {m n : Nat} {e j : Int} (h : RoundsTo ((n : Rat) * 2 ^ j) m e) (hn : n < 2 ^ 53)
    (hj : -1074 ≤ j) :
  (m : Rat) * 2 ^ e = (n : Rat) * 2 ^ j
  := by
  have hpos : (0 : Rat) < 2 ^ e := by positivity
  obtain ⟨hlow, hhigh⟩ := abs_le.mp h.near
  rcases le_or_gt e j with hle | hgt
  · -- The scale is no greater, so both are integers at the scale of the result.
    obtain ⟨k, rfl⟩ := Int.le.dest hle
    have hscaled : (n : Rat) * 2 ^ (e + k) = ((n * 2 ^ k : Nat) : Rat) * 2 ^ e := by
      rw [zpow_add₀ (by norm_num), zpow_natCast]
      push_cast
      ring
    rw [hscaled] at hlow hhigh ⊢
    have hlow' : (m : Rat) < ((n * 2 ^ k : Nat) : Rat) + 1 := by
      apply lt_of_mul_lt_mul_right _ hpos.le
      linarith
    have hhigh' : ((n * 2 ^ k : Nat) : Rat) < (m : Rat) + 1 := by
      apply lt_of_mul_lt_mul_right _ hpos.le
      linarith
    norm_cast at hlow' hhigh'
    obtain rfl : m = n * 2 ^ k := by omega
    rfl
  · -- A greater scale is that of a greater rational.
    have hm : 2 ^ 52 ≤ m := h.normal.resolve_left (by omega)
    have hbound : (n : Rat) * 2 ^ j ≤ (2 ^ 52 - 1 / 2) * 2 ^ e := by
      have hn' : (n : Rat) ≤ 2 ^ 53 - 1 := by
        have hle : n + 1 ≤ 2 ^ 53 := hn
        have hcast : (n : Rat) + 1 ≤ 2 ^ 53 := by exact_mod_cast hle
        linarith
      have hpower : (2 : Rat) ^ j ≤ 2 ^ e / 2 := by
        calc (2 : Rat) ^ j ≤ 2 ^ (e - 1) := zpow_le_zpow_right₀ (by norm_num) (by omega)
          _ = 2 ^ e / 2 := by rw [zpow_sub₀ (by norm_num), zpow_one]
      calc (n : Rat) * 2 ^ j ≤ (2 ^ 53 - 1) * (2 ^ e / 2) := by
            apply mul_le_mul hn' hpower (by positivity) (by norm_num)
        _ = (2 ^ 52 - 1 / 2) * 2 ^ e := by ring
    exfalso
    rcases hm.lt_or_eq with hgt | rfl
    · have hcast : (2 : Rat) ^ 52 + 1 ≤ m := by exact_mod_cast hgt
      have hproduct := mul_le_mul_of_nonneg_right hcast hpos.le
      linarith
    · have hlower := h.lower rfl (by omega)
      push_cast at hlower
      linarith

/-- A rational that has only fifty-three bits is not changed. -/
theorem value_ofRat_of_representable
    {n : Nat} {j : Int} (hn : n < 2 ^ 53) (hj : -1074 ≤ j)
    (hlt : (n : Rat) * 2 ^ j < 2 ^ (1000 : Int)) :
  (ofRat ((n : Rat) * 2 ^ j)).value = (n : Rat) * 2 ^ j
  := by
  rcases Nat.eq_zero_or_pos n with rfl | hpos
  · rw [Nat.cast_zero, zero_mul]
    decide +kernel
  · obtain ⟨m, e, hround, hsignificand, -, hsign⟩ :=
      exists_roundsTo (r := (n : Rat) * 2 ^ j) (by positivity) hlt
    rw [value_of_significand hsignificand hsign]
    apply hround.eq_of_representable hn hj

/-- An integer of fifty-three bits is not changed. -/
theorem value_ofInt_natCast {n : Nat} (hn : n < 2 ^ 53) :
  (ofInt n).value = (n : Rat)
  := by
  have hscaled : ((n : Int) : Rat) = (n : Rat) * 2 ^ (0 : Int) := by
    rw [zpow_zero, mul_one, Int.cast_natCast]
  have hlt : (n : Rat) * 2 ^ (0 : Int) < 2 ^ (1000 : Int) := by
    rw [zpow_zero, mul_one]
    calc (n : Rat) < 2 ^ (53 : Int) := by exact_mod_cast hn
      _ ≤ 2 ^ (1000 : Int) := zpow_le_zpow_right₀ (by norm_num) (by norm_num)
  rw [ofInt, hscaled, value_ofRat_of_representable hn (by norm_num) hlt, zpow_zero, mul_one]

/-- The powers of ten up to the twenty-second are not changed. -/
theorem value_ofInt_ten_pow {k : Nat} (hk : k ≤ 22) :
  (ofInt (10 ^ k : Nat)).value = 10 ^ k
  := by
  have hscaled : (((10 ^ k : Nat) : Int) : Rat) = ((5 ^ k : Nat) : Rat) * 2 ^ (k : Int) := by
    rw [zpow_natCast]
    push_cast
    rw [← mul_pow]
    norm_num
  have hfive : (5 : Nat) ^ k < 2 ^ 53 := by
    calc (5 : Nat) ^ k ≤ 5 ^ 22 := Nat.pow_le_pow_right (by norm_num) hk
      _ < 2 ^ 53 := by norm_num
  have hlt : ((5 ^ k : Nat) : Rat) * 2 ^ (k : Int) < 2 ^ (1000 : Int) := by
    have htwo : (2 : Rat) ^ (k : Int) ≤ 2 ^ (22 : Int) :=
      zpow_le_zpow_right₀ (by norm_num) (by omega)
    have hcast : ((5 ^ k : Nat) : Rat) < 2 ^ (53 : Int) := by exact_mod_cast hfive
    calc ((5 ^ k : Nat) : Rat) * 2 ^ (k : Int) < 2 ^ (53 : Int) * 2 ^ (22 : Int) :=
          mul_lt_mul hcast htwo (by positivity) (by positivity)
      _ = 2 ^ (75 : Int) := by rw [← zpow_add₀ (by norm_num)]; norm_num
      _ ≤ 2 ^ (1000 : Int) := zpow_le_zpow_right₀ (by norm_num) (by norm_num)
  rw [ofInt, hscaled, value_ofRat_of_representable hfive (by omega) hlt, ← hscaled]
  push_cast
  rfl

/-! ### Numbers that are not too great -/

/-- A finite number between zero and a power of two. -/
structure IsBelow (x : Binary64) (k : Nat) : Prop where
  finite : x.isFinite = true
  nonneg : 0 ≤ x.value
  le : x.value ≤ 2 ^ k

theorem RoundsTo.le_two_mul
    {r : Rat} {m : Nat} {e : Int} (h : RoundsTo r m e) (hr : 1 ≤ r) :
  (m : Rat) * 2 ^ e ≤ 2 * r
  := by
  have hsmall : (2 : Rat) ^ (-1022 : Int) ≤ 1 := zpow_le_one_of_nonpos₀ (by norm_num) (by norm_num)
  have hnear := (abs_le.mp (h.relative (hsmall.trans hr))).1
  have hpart : r / 2 ^ (53 : Int) ≤ r := by
    apply div_le_self (by linarith)
    apply one_le_zpow₀ (by norm_num) (by norm_num)
  linarith

/-- A rational below one is not rounded beyond two. -/
theorem RoundsTo.le_two
    {r : Rat} {m : Nat} {e : Int} (h : RoundsTo r m e) (hr : r ≤ 1) :
  (m : Rat) * 2 ^ e ≤ 2
  := by
  have hnear := (abs_le.mp h.near).1
  rcases h.normal with rfl | hm
  · have hunit : (2 : Rat) ^ (-1074 : Int) ≤ 1 :=
      zpow_le_one_of_nonpos₀ (by norm_num) (by norm_num)
    linarith
  · have hcast : (2 : Rat) ^ 52 ≤ m := by exact_mod_cast hm
    have hpos : (0 : Rat) < 2 ^ e := by positivity
    have hunit : (2 : Rat) ^ e ≤ (m : Rat) * 2 ^ e := by
      apply le_mul_of_one_le_left hpos.le
      linarith
    linarith

/-- A rational up to a power of two is rounded to a number up to the next one. -/
theorem isBelow_ofRat {r : Rat} {k : Nat} (hr : 0 ≤ r) (hk : k < 1000) (hle : r ≤ 2 ^ k) :
  IsBelow (ofRat r) (k + 1)
  := by
  have hone : (1 : Rat) ≤ 2 ^ k := one_le_pow₀ (by norm_num)
  rcases hr.lt_or_eq with hpos | rfl
  · obtain ⟨m, e, hround, hsignificand, hfinite, hsign⟩ := exists_roundsTo hpos (by
      apply hle.trans_lt
      rw [← zpow_natCast]
      apply zpow_lt_zpow_right₀ (by norm_num)
      exact_mod_cast hk)
    have hvalue := value_of_significand hsignificand hsign
    refine ⟨hfinite, ?_, ?_⟩
    · rw [hvalue]
      positivity
    · rw [hvalue, pow_succ]
      rcases le_total r 1 with hsmall | hgreat
      · have hbound := hround.le_two hsmall
        linarith
      · have hbound := hround.le_two_mul hgreat
        linarith
  · have hzero : (ofRat 0).value = 0 := by decide +kernel
    refine ⟨by decide +kernel, hzero.ge, ?_⟩
    rw [hzero]
    positivity

theorem isBelow_ofInt {n k : Nat} (hk : k < 1000) (hn : n ≤ 2 ^ k) :
  IsBelow (ofInt n) (k + 1)
  := by
  have hcast : ((n : Int) : Rat) = (n : Rat) := Int.cast_natCast n
  rw [ofInt, hcast]
  apply isBelow_ofRat (Nat.cast_nonneg n) hk
  exact_mod_cast hn

/-- A sum is at most four times the bound of its parts. -/
theorem IsBelow.add
    {x y : Binary64} {k : Nat} (hx : IsBelow x k) (hy : IsBelow y k) (hk : k < 999) :
  IsBelow (x.add y) (k + 2)
  := by
  apply isBelow_ofRat (add_nonneg hx.nonneg hy.nonneg) (by omega)
  rw [pow_succ]
  linarith [hx.le, hy.le]

/-- A product is at most twice the product of the bounds of its factors. -/
theorem IsBelow.mul
    {x y : Binary64} {j k : Nat} (hx : IsBelow x j) (hy : IsBelow y k) (hk : j + k < 1000) :
  IsBelow (x.mul y) (j + k + 1)
  := by
  apply isBelow_ofRat (mul_nonneg hx.nonneg hy.nonneg) hk
  rw [pow_add]
  apply mul_le_mul hx.le hy.le hy.nonneg (by positivity)

/-- A quotient by a half or more is at most four times the bound of its dividend. -/
theorem IsBelow.div
    {x y : Binary64} {k : Nat} (hx : IsBelow x k) (hy : 1 / 2 ≤ y.value) (hk : k < 999) :
  IsBelow (x.div y) (k + 2)
  := by
  have hpos : 0 < y.value := by linarith
  apply isBelow_ofRat (div_nonneg hx.nonneg hpos.le) (by omega)
  rw [div_le_iff₀ hpos, pow_succ]
  have hproduct := mul_le_mul_of_nonneg_left hy (show (0 : Rat) ≤ 2 ^ k * 2 by positivity)
  linarith [hx.le]

/-- A number that is rounded to an integer is at most four times its bound. -/
theorem IsBelow.round {x : Binary64} {k : Nat} (hx : IsBelow x k) (hk : k < 999) :
  IsBelow x.round (k + 2)
  := by
  have hfloor : 0 ≤ (x.value + 1 / 2).floor := Rat.le_floor_iff.mpr (by
    have := hx.nonneg
    push_cast
    linarith)
  obtain ⟨n, hn⟩ := Int.eq_ofNat_of_zero_le hfloor
  rw [Binary64.round, hn]
  apply isBelow_ofInt (by omega)
  have hle : ((x.value + 1 / 2).floor : Rat) ≤ x.value + 1 / 2 := Rat.floor_le _
  have hone : (1 : Rat) ≤ 2 ^ k := one_le_pow₀ (by norm_num)
  rw [hn] at hle
  have hcast : (n : Rat) ≤ 2 ^ (k + 1) := by
    push_cast at hle
    rw [pow_succ]
    linarith [hx.le]
  exact_mod_cast hcast

theorem magnitudeBits_lt (x : Binary64) :
  x.magnitudeBits < 2 ^ 63
  := Nat.mod_lt _ (by norm_num)

/-- A change of the sign keeps the magnitude. -/
theorem magnitudeBits_neg (x : Binary64) :
  x.neg.magnitudeBits = x.magnitudeBits
  := magnitudeBits_ofMagnitude x.magnitudeBits_lt

theorem isNegative_neg (x : Binary64) :
  x.neg.isNegative = !x.isNegative
  := isNegative_ofMagnitude x.magnitudeBits_lt

/-- A change of the sign keeps a number finite. -/
theorem isFinite_neg (x : Binary64) :
  x.neg.isFinite = x.isFinite
  := by
  rw [isFinite, magnitudeBits_neg, isFinite]

/-! ### The rationals that round to a number -/

/-- A rational is in the interval of the number that it is rounded to. -/
theorem RoundsTo.roundsTo
    {r : Rat} {m : Nat} {e : Int} (h : RoundsTo r m e) {x : Binary64}
    (hx : x.significand = (m, e)) :
  x.roundsTo r = true
  := by
  have hpos : (0 : Rat) < 2 ^ e := by positivity
  obtain ⟨hlow, hhigh⟩ := abs_le.mp h.near
  have hbelow : ((m : Rat) - (if m = 2 ^ 52 ∧ -1074 < e then 1 / 4 else 1 / 2)) * 2 ^ e ≤ r := by
    split
    · rename_i hpower
      have hlower := h.lower hpower.1 hpower.2
      linarith
    · linarith
  have habove : r ≤ ((m : Rat) + 1 / 2) * 2 ^ e := by linarith
  simp only [Binary64.roundsTo, interval, hx]
  split
  · rw [decide_eq_true_eq]
    use hbelow, habove
  · rename_i hodd
    have hstrict : |r - (m : Rat) * 2 ^ e| < 2 ^ e / 2 :=
      lt_of_le_of_ne h.near fun heq => hodd (h.even heq)
    obtain ⟨hlow, hhigh⟩ := abs_lt.mp hstrict
    have hnotpower : ¬ (m = 2 ^ 52 ∧ -1074 < e) := by
      rintro ⟨rfl, -⟩
      apply hodd
      norm_num
    rw [decide_eq_true_eq, if_neg hnotpower]
    constructor <;> linarith

/-- Rationals in the interval of a number differ from it by at most half a unit. -/
theorem abs_sub_le_of_roundsTo
    {x : Binary64} {m : Nat} {e : Int} (hx : x.significand = (m, e)) {r : Rat}
    (h : x.roundsTo r = true) :
  |r - (m : Rat) * 2 ^ e| ≤ 2 ^ e / 2
  := by
  have hpos : (0 : Rat) < 2 ^ e := by positivity
  have hends : ((m : Rat) - (if m = 2 ^ 52 ∧ -1074 < e then 1 / 4 else 1 / 2)) * 2 ^ e ≤ r
      ∧ r ≤ ((m : Rat) + 1 / 2) * 2 ^ e := by
    simp only [roundsTo, interval, hx] at h
    split at h
    · apply of_decide_eq_true h
    · obtain ⟨hlow, hhigh⟩ := of_decide_eq_true h
      use hlow.le, hhigh.le
  obtain ⟨hlow, hhigh⟩ := hends
  have hbelow : ((m : Rat) - 1 / 2) * 2 ^ e ≤ r := by
    apply le_trans _ hlow
    apply mul_le_mul_of_nonneg_right _ hpos.le
    split <;> linarith
  rw [abs_le]
  constructor <;> linarith

end TableGateway.Binary64
