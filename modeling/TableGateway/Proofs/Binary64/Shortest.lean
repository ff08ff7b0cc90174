import TableGateway.Proofs.Binary64.Rounding

/-!
# Shortest decimals of few digits

A decimal of at most fifteen digits is farther from every other one than two rationals that
round to one number can be. So it is the only such decimal that rounds to its floating-point
number, and the shortest decimal of that number is the decimal itself.
-/

namespace TableGateway.Binary64

/-! ### The first digit -/

/-- A number lies between the powers of ten that its digits give. -/
theorem ten_pow_length_toDigits {n : Nat} (hn : n ≠ 0) :
  10 ^ ((Nat.toDigits 10 n).length - 1) ≤ n ∧ n < 10 ^ (Nat.toDigits 10 n).length
  := by
  have hpos : 0 < (Nat.toDigits 10 n).length := Nat.length_toDigits_pos
  constructor
  · rcases Nat.eq_zero_or_pos ((Nat.toDigits 10 n).length - 1) with hone | hmore
    · rw [hone, Nat.pow_zero]
      omega
    · rw [← Nat.not_lt, ← Nat.length_toDigits_le_iff (by norm_num) hmore]
      omega
  · rw [← Nat.length_toDigits_le_iff (by norm_num) hpos]

theorem zpow_length_toDigits {n : Nat} (hn : n ≠ 0) :
  (10 : Rat) ^ (((Nat.toDigits 10 n).length : Int) - 1) ≤ n
    ∧ (n : Rat) < 10 ^ ((Nat.toDigits 10 n).length : Int)
  := by
  have hpos : 0 < (Nat.toDigits 10 n).length := Nat.length_toDigits_pos
  obtain ⟨hlow, hhigh⟩ := ten_pow_length_toDigits hn
  have hcast : ((Nat.toDigits 10 n).length : Int) - 1
      = (((Nat.toDigits 10 n).length - 1 : Nat) : Int) := by omega
  rw [hcast, zpow_natCast, zpow_natCast]
  constructor
  · exact_mod_cast hlow
  · exact_mod_cast hhigh

/-- The first digit of a rational stands at its decimal point. -/
theorem decimalPoint_bounds {r : Rat} (hr : 0 < r) :
  10 ^ (decimalPoint r - 1) ≤ r ∧ r < 10 ^ decimalPoint r
  := by
  have hten : (10 : Rat) ≠ 0 := by norm_num
  obtain ⟨hnumlow, hnumhigh⟩ := zpow_length_toDigits (num_toNat_ne_zero hr)
  obtain ⟨hdenlow, hdenhigh⟩ := zpow_length_toDigits r.den_nz
  have hden : (0 : Rat) < r.den := by exact_mod_cast r.den_pos
  have heq := num_toNat_div_den hr
  rw [decimalPoint]
  generalize ((Nat.toDigits 10 r.num.toNat).length : Int) = a at *
  generalize ((Nat.toDigits 10 r.den).length : Int) = b at *
  split
  · rename_i hup
    constructor
    · rw [Int.add_sub_cancel]
      apply hup
    · calc r = (r.num.toNat : Rat) / r.den := heq.symm
        _ < 10 ^ a / r.den := div_lt_div_of_pos_right hnumhigh hden
        _ ≤ 10 ^ a / 10 ^ (b - 1) := by
          apply div_le_div_of_nonneg_left (by positivity) (by positivity) hdenlow
        _ = 10 ^ (a - b + 1) := by
            rw [← zpow_sub₀ hten]
            congr 1
            omega
  · rename_i hdown
    constructor
    · calc (10 : Rat) ^ (a - b - 1) = 10 ^ (a - 1) / 10 ^ b := by
            rw [← zpow_sub₀ hten]
            congr 1
            omega
        _ ≤ 10 ^ (a - 1) / r.den := div_le_div_of_nonneg_left (by positivity) hden hdenhigh.le
        _ ≤ (r.num.toNat : Rat) / r.den := div_le_div_of_nonneg_right hnumlow hden.le
        _ = r := heq
    · apply not_le.mp hdown

/-! ### Values of digits -/

/-- The number that digits write, by its units. -/
def Digits.value (d : Digits) : Rat :=
  (Nat.ofDigitChars 10 d.digits 0 : Rat) * 10 ^ (d.point - d.digits.length)

/-- Digits that write a positive rational, without zeros at either end. -/
structure Digits.Writes (d : Digits) (r : Rat) : Prop where
  isDigit : ∀ c ∈ d.digits, c.isDigit = true
  last : ∃ before c, d.digits = before ++ [c] ∧ c ≠ '0'
  value : d.value = r
  first : 10 ^ (d.point - 1) ≤ r

theorem exists_eq_dropZeros_append (digits : List Char) :
  ∃ count, digits = dropZeros digits ++ List.replicate count '0'
  := by
  use (digits.reverse.takeWhile (· == '0')).length
  have hzeros : digits.reverse.takeWhile (· == '0')
      = List.replicate (digits.reverse.takeWhile (· == '0')).length '0' := by
    rw [List.eq_replicate_iff]
    use rfl
    intro c hc
    apply eq_of_beq
    apply List.all_eq_true.mp (List.all_takeWhile (p := (· == '0'))) c hc
  rw [dropZeros, ← List.reverse_inj, List.reverse_append, List.reverse_reverse,
    List.reverse_replicate, ← hzeros, List.takeWhile_append_dropWhile]

theorem exists_dropZeros_eq_append {digits : List Char} (h : dropZeros digits ≠ []) :
  ∃ before c, dropZeros digits = before ++ [c] ∧ c ≠ '0'
  := by
  rw [dropZeros, ne_eq, List.reverse_eq_nil_iff] at h
  have hhead := List.head_dropWhile_not (· == '0') h
  rw [dropZeros]
  generalize digits.reverse.dropWhile (· == '0') = rest at h hhead
  cases rest with
  | nil => cases h rfl
  | cons c rest =>
      use rest.reverse, c
      constructor
      · apply List.reverse_cons
      · apply ne_of_beq_false hhead

/-- The digits of a number, without the zeros at the end, write it. -/
theorem writes_dropZeros {n : Nat} (hn : n ≠ 0) (exponent : Int) :
  Digits.Writes
    ⟨dropZeros (Nat.toDigits 10 n), exponent + (Nat.toDigits 10 n).length⟩
    ((n : Rat) * 10 ^ exponent)
  := by
  have hten : (10 : Rat) ≠ 0 := by norm_num
  have hvalue : Nat.ofDigitChars 10 (Nat.toDigits 10 n) 0 = n :=
    Nat.ofDigitChars_toDigits (by norm_num) (by norm_num)
  have hdigits : ∀ c ∈ Nat.toDigits 10 n, c.isDigit = true := fun _ =>
    Nat.isDigit_of_mem_toDigits (by norm_num) (by norm_num)
  have hfirst := (zpow_length_toDigits hn).1
  obtain ⟨count, heq⟩ := exists_eq_dropZeros_append (Nat.toDigits 10 n)
  generalize hd : dropZeros (Nat.toDigits 10 n) = digits at heq
  have hlength : (Nat.toDigits 10 n).length = digits.length + count := by
    rw [heq, List.length_append, List.length_replicate]
  have hshifted : n = 10 ^ count * Nat.ofDigitChars 10 digits 0 := by
    rw [← hvalue, heq, Nat.ofDigitChars_append, Nat.ofDigitChars_replicate_zero]
  constructor
  · intro c hc
    apply hdigits
    rw [heq]
    apply List.mem_append_left _ hc
  · rw [← hd]
    apply exists_dropZeros_eq_append
    rw [hd]
    rintro rfl
    apply hn
    simpa using hshifted
  · rw [Digits.value]
    dsimp only
    conv_rhs => rw [hshifted]
    have hexponent : exponent + (Nat.toDigits 10 n).length - digits.length = count + exponent := by
      omega
    rw [hexponent, zpow_add₀ hten, zpow_natCast]
    push_cast
    ring
  · have hexponent : exponent + (Nat.toDigits 10 n).length - 1
        = ((Nat.toDigits 10 n).length - 1) + exponent := by omega
    dsimp only
    rw [hexponent, zpow_add₀ hten]
    apply mul_le_mul_of_nonneg_right hfirst (by positivity)

/-! ### Finding the shortest decimal -/

/-- A moderate rational is not rounded at the least scale. -/
theorem RoundsTo.normal_of_moderate
    {r : Rat} {m : Nat} {e : Int} (h : RoundsTo r m e) (hr : 1 / 2 ^ 100 ≤ r) :
  2 ^ 52 ≤ m
  := by
  apply h.normal.resolve_left
  rintro rfl
  have hnear := (abs_le.mp h.near).2
  have hlt : (m : Rat) ≤ 2 ^ (53 : Int) := by exact_mod_cast h.lt.le
  have hproduct : (m : Rat) * 2 ^ (-1074 : Int) ≤ 2 ^ (53 : Int) * 2 ^ (-1074 : Int) :=
    mul_le_mul_of_nonneg_right hlt (by positivity)
  have hsmall : (2 : Rat) ^ (-1074 : Int) ≤ 2 ^ (-200 : Int) :=
    zpow_le_zpow_right₀ (by norm_num) (by norm_num)
  have hsmall' : (2 : Rat) ^ (53 : Int) * 2 ^ (-1074 : Int) ≤ 2 ^ (-200 : Int) := by
    rw [← zpow_add₀ (by norm_num)]
    apply zpow_le_zpow_right₀ (by norm_num) (by norm_num)
  have hpower : (2 : Rat) ^ (-200 : Int) = 1 / 2 ^ 200 := by norm_num
  rw [hpower] at hsmall hsmall'
  linarith

/-- A decimal is found with the least number of digits for which there is one. -/
theorem exists_findSome?_range'
    {α : Type} {f : Nat → Option α} {count total : Nat} (hone : 1 ≤ count) (hle : count ≤ total)
    (hf : (f count).isSome = true) :
  ∃ first ≤ count, ∃ a, f first = some a ∧ (List.range' 1 total).findSome? f = some a
  := by
  have hsplit : List.range' 1 total
      = List.range' 1 count ++ List.range' (1 + count) (total - count) := by
    rw [List.range'_append_1]
    congr 1
    omega
  have hfound : ((List.range' 1 count).findSome? f).isSome = true := by
    rw [List.findSome?_isSome_iff]
    use count
    rw [List.mem_range'_1]
    use ⟨hone, by omega⟩
  obtain ⟨a, ha⟩ := Option.isSome_iff_exists.mp hfound
  obtain ⟨first, hmem, hfirst⟩ := List.exists_of_findSome?_eq_some ha
  rw [List.mem_range'_1] at hmem
  use first, by omega, a, hfirst
  rw [hsplit, List.findSome?_append, ha, Option.some_or]

theorem roundsTo_of_withDigits?
    {x : Binary64} {point : Int} {count n : Nat} (h : x.withDigits? point count = some n) :
  x.roundsTo ((n : Rat) * 10 ^ (point - count)) = true
  := by
  rw [withDigits?] at h
  dsimp only at h
  split at h
  · rename_i hfits
    cases h
    apply hfits
  · split at h
    · rename_i hfits
      cases h
      apply hfits
    · split at h
      · rename_i hfits
        cases h
        apply hfits
      · cases h

theorem withDigits?_of_roundHalfEven
    {x : Binary64} {point : Int} {count n : Nat}
    (hn : roundHalfEven (x.magnitude / 10 ^ (point - count)) = n)
    (hfits : x.roundsTo ((n : Rat) * 10 ^ (point - count)) = true) :
  x.withDigits? point count = some n
  := by
  rw [withDigits?]
  dsimp only
  rw [hn, if_pos hfits]

/-- A unit of a number is less than the unit of its first fifteen digits. -/
theorem two_pow_lt_ten_pow
    {m : Nat} {e point : Int} (hm : 2 ^ 52 ≤ m) (hpoint : (m : Rat) * 2 ^ e < 10 ^ point) :
  (2 : Rat) ^ e < 10 ^ (point - 15)
  := by
  have hm' : (2 : Rat) ^ 52 ≤ m := by exact_mod_cast hm
  have hunit : (2 : Rat) ^ 52 * 2 ^ e ≤ (m : Rat) * 2 ^ e :=
    mul_le_mul_of_nonneg_right hm' (by positivity)
  have hgrid : (10 : Rat) ^ point = 10 ^ (point - 15) * 10 ^ 15 := by
    rw [← zpow_natCast, ← zpow_add₀ (by norm_num)]
    congr 1
    omega
  have hpos : (0 : Rat) < 10 ^ (point - 15) := by positivity
  rw [hgrid] at hpoint
  linarith

/-- Two multiples of more than a unit that round to one number are equal. -/
theorem eq_of_roundsTo
    {x : Binary64} {m : Nat} {e : Int} (hx : x.significand = (m, e)) {grid : Rat}
    (hgrid : 2 ^ e < grid) {a b : Nat} (ha : x.roundsTo ((a : Rat) * grid) = true)
    (hb : x.roundsTo ((b : Rat) * grid) = true) :
  a = b
  := by
  obtain ⟨halow, hahigh⟩ := abs_le.mp (abs_sub_le_of_roundsTo hx ha)
  obtain ⟨hblow, hbhigh⟩ := abs_le.mp (abs_sub_le_of_roundsTo hx hb)
  have hpos : (0 : Rat) < 2 ^ e := by positivity
  have hab : (a : Rat) < (b : Rat) + 1 := by
    apply lt_of_mul_lt_mul_right _ (hpos.trans hgrid).le
    linarith
  have hba : (b : Rat) < (a : Rat) + 1 := by
    apply lt_of_mul_lt_mul_right _ (hpos.trans hgrid).le
    linarith
  norm_cast at hab hba
  omega

/-- A decimal of at most fifteen digits is an integer at the place of the fifteenth. -/
theorem exists_eq_mul_grid
    {n k : Nat} {point : Int} (hpoint : point ≤ 15 - k) :
  ∃ a : Nat, (n : Rat) / 10 ^ k = (a : Rat) * 10 ^ (point - 15)
  := by
  use n * 10 ^ (15 - k - point).toNat
  have hexponent : (((15 - k - point).toNat : Nat) : Int) = 15 - k - point :=
    Int.toNat_of_nonneg (by omega)
  push_cast
  rw [← zpow_natCast, ← zpow_natCast, hexponent, mul_assoc, ← zpow_add₀ (by norm_num),
    div_eq_mul_inv, ← zpow_neg]
  congr 2
  omega

/-- With fifteen digits the decimal itself is found. -/
theorem withDigits?_fifteen
    {x : Binary64} {r : Rat} {m a : Nat} {e point : Int} (hround : RoundsTo r m e)
    (hx : x.significand = (m, e)) (hgrid : (2 : Rat) ^ e < 10 ^ (point - 15))
    (hr : r = (a : Rat) * 10 ^ (point - 15)) :
  x.withDigits? point 15 = some a
  := by
  have hwide : (0 : Rat) < 10 ^ (point - 15) := by positivity
  have hmagnitude := magnitude_of_significand hx
  have hpositive : 0 ≤ x.magnitude := by
    rw [hmagnitude]
    positivity
  apply withDigits?_of_roundHalfEven
  · apply roundHalfEven_eq (by positivity)
    have hdistance : x.magnitude / 10 ^ (point - 15) - a
        = (x.magnitude - r) / 10 ^ (point - 15) := by
      rw [hr]
      field_simp
    have hnear := hround.near
    have hpower : (0 : Rat) < 2 ^ e := by positivity
    push_cast
    rw [hdistance, abs_div, abs_of_pos hwide, div_lt_iff₀ hwide, hmagnitude, abs_sub_comm]
    linarith
  · have hfits := hround.roundsTo hx
    rw [hr] at hfits
    apply hfits

/-- The shortest decimal is found with at most as many digits as some decimal is. -/
theorem exists_shortest_eq
    {x : Binary64} {count : Nat} (hone : 1 ≤ count) (hle : count ≤ 17)
    (h : (x.withDigits? (decimalPoint x.magnitude) count).isSome = true) :
  ∃ first ≤ count, ∃ b, x.withDigits? (decimalPoint x.magnitude) first = some b
    ∧ x.shortest = ⟨dropZeros (Nat.toDigits 10 b),
        decimalPoint x.magnitude + (Nat.toDigits 10 b).length - first⟩
  := by
  rw [shortest]
  dsimp only
  generalize decimalPoint x.magnitude = point at *
  have hsome : ((x.withDigits? point count).map fun n => (n, count)).isSome = true := by
    rw [Option.isSome_map, h]
  obtain ⟨first, hfirst, found, hmap, hfound⟩ := exists_findSome?_range'
    (f := fun count => (x.withDigits? point count).map fun n => (n, count)) hone hle hsome
  obtain ⟨b, hb, rfl⟩ := Option.map_eq_some_iff.mp hmap
  use first, hfirst, b, hb
  rw [hfound]

/-- A decimal that is found with fewer digits is the same one. -/
theorem eq_of_withDigits?
    {x : Binary64} {m a b count : Nat} {e point : Int} (hx : x.significand = (m, e))
    (hgrid : (2 : Rat) ^ e < 10 ^ (point - 15)) (hcount : count ≤ 15)
    (ha : x.withDigits? point 15 = some a) (hb : x.withDigits? point count = some b) :
  (b : Rat) * 10 ^ (point - count) = (a : Rat) * 10 ^ (point - 15)
  := by
  have hvalue : (b : Rat) * 10 ^ (point - count)
      = ((b * 10 ^ (15 - count) : Nat) : Rat) * 10 ^ (point - 15) := by
    push_cast
    rw [mul_assoc, ← zpow_natCast, ← zpow_add₀ (by norm_num)]
    congr 2
    omega
  have hfits := roundsTo_of_withDigits? hb
  rw [hvalue] at hfits
  rw [hvalue, eq_of_roundsTo hx hgrid hfits (roundsTo_of_withDigits? ha)]

/-- A rational of at most fifteen digits and twenty-two places is moderate. -/
theorem moderate_of_digits
    {n k : Nat} (hn : 0 < n) (hdigits : n < 10 ^ 15) (hplaces : k ≤ 22) :
  1 / 2 ^ 100 ≤ (n : Rat) / 10 ^ k ∧ (n : Rat) / 10 ^ k ≤ 2 ^ 100
  := by
  have hone : (1 : Rat) ≤ n := by exact_mod_cast hn
  have hlast : (n : Rat) + 1 ≤ 10 ^ 15 := by exact_mod_cast hdigits
  have hunit : (0 : Rat) < 10 ^ k := by positivity
  have hunitlow : (1 : Rat) ≤ 10 ^ k := one_le_pow₀ (by norm_num)
  have hunithigh : (10 : Rat) ^ k ≤ 10 ^ 22 := pow_le_pow_right₀ (by norm_num) hplaces
  rw [le_div_iff₀ hunit, div_le_iff₀ hunit]
  constructor <;> linarith

/-- The number nearest to a decimal of fifteen digits is below the power of ten after them. -/
theorem point_le_of_near
    {n k m : Nat} {e point : Int} (hn : 0 < n) (hdigits : n < 10 ^ 15)
    (hnear : |(m : Rat) * 2 ^ e - (n : Rat) / 10 ^ k| ≤ (n : Rat) / 10 ^ k / 2 ^ 53)
    (hpoint : (10 : Rat) ^ (point - 1) ≤ (m : Rat) * 2 ^ e) :
  point ≤ 15 - k
  := by
  have hunit : (0 : Rat) < 10 ^ k := by positivity
  have hone : (1 : Rat) ≤ n := by exact_mod_cast hn
  have hlast : (n : Rat) + 1 ≤ 10 ^ 15 := by exact_mod_cast hdigits
  have hproduct : (n : Rat) / 10 ^ k * 10 ^ k = n := div_mul_cancel₀ _ hunit.ne'
  have hbelow : (m : Rat) * 2 ^ e < 10 ^ (15 - k : Int) := by
    rw [zpow_sub₀ (by norm_num), zpow_natCast, lt_div_iff₀ hunit]
    have hscaled := mul_le_mul_of_nonneg_right (abs_le.mp hnear).2 hunit.le
    norm_num
    linarith
  have hpower := hpoint.trans_lt hbelow
  rw [zpow_lt_zpow_iff_right₀ (by norm_num)] at hpower
  omega

/-- The shortest decimal of the number nearest to a decimal of at most fifteen digits is that
decimal. -/
theorem writes_shortest
    {n k : Nat} (hn : 0 < n) (hdigits : n < 10 ^ 15) (hplaces : k ≤ 22) :
  (ofRat ((n : Rat) / 10 ^ k)).shortest.Writes ((n : Rat) / 10 ^ k)
  := by
  obtain ⟨hlow, hhigh⟩ := moderate_of_digits hn hdigits hplaces
  have hpos : 0 < (n : Rat) / 10 ^ k := by positivity
  obtain ⟨m, e, hround, hx, -, hsign⟩ := exists_roundsTo hpos (lt_of_le_two_pow hhigh)
  have hnear := value_ofRat_near_of_moderate hlow hhigh
  rw [value_of_significand hx hsign] at hnear
  have hmagnitude := magnitude_of_significand hx
  have hm : (2 : Rat) ^ 52 ≤ m := by exact_mod_cast hround.normal_of_moderate hlow
  have hpositive : 0 < (ofRat ((n : Rat) / 10 ^ k)).magnitude := by
    rw [hmagnitude]
    positivity
  obtain ⟨hpointlow, hpointhigh⟩ := decimalPoint_bounds hpositive
  rw [hmagnitude] at hpointlow hpointhigh
  have hgrid := two_pow_lt_ten_pow (hround.normal_of_moderate hlow) hpointhigh
  obtain ⟨a, ha⟩ :=
    @exists_eq_mul_grid n k _ (point_le_of_near hn hdigits hnear hpointlow)
  have hfifteen := withDigits?_fifteen hround hx hgrid ha
  rw [← hmagnitude] at hfifteen hgrid ha
  obtain ⟨count, hcount, b, hb, hshortest⟩ := exists_shortest_eq (by norm_num : 1 ≤ 15)
    (by norm_num) (by rw [hfifteen]; rfl)
  have hsame := (eq_of_withDigits? hx hgrid hcount hfifteen hb).trans ha.symm
  have hne : b ≠ 0 := by
    rintro rfl
    rw [Nat.cast_zero, zero_mul] at hsame
    linarith
  have hwrites := writes_dropZeros hne (decimalPoint (ofRat ((n : Rat) / 10 ^ k)).magnitude - count)
  rw [hsame] at hwrites
  rw [hshortest]
  convert hwrites using 2
  omega

end TableGateway.Binary64
