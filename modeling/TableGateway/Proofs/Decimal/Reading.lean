import TableGateway.Decimal.Reader
import TableGateway.Json.Printer
import TableGateway.Proofs.Binary64.Shortest

/-!
# Reading the texts of floating-point numbers as decimals

The text of a floating-point number is its shortest decimal, positional or scientific. Read as
a decimal it has just the digits that are written, as long as the coefficient and the scale
have room for them, and so it has the value that the digits write.
-/

namespace TableGateway.Decimal

open Binary64

/-! ### Digits -/

theorem le_ofDigitChars (digits : List Char) (n : Nat) :
  n ≤ Nat.ofDigitChars 10 digits n
  := by
  induction digits generalizing n with
  | nil => rfl
  | cons c rest ih =>
      rw [Nat.ofDigitChars_cons]
      apply le_trans _ (ih _)
      omega

/-- Digits that fit are taken into the coefficient, and after the point into the scale. -/
theorem digits?_append
    {point started : Bool} {coefficient scale : Nat} {digits : List Char} (rest : List Char)
    (hdigits : ∀ c ∈ digits, c.isDigit = true)
    (hcoefficient : Nat.ofDigitChars 10 digits coefficient < 2 ^ 96)
    (hscale : if point then scale + digits.length ≤ 28 else scale = 0) :
  digits? point started coefficient scale (digits ++ rest)
    = digits? point (started || !digits.isEmpty) (Nat.ofDigitChars 10 digits coefficient)
      (if point then scale + digits.length else 0) rest
  := by
  induction digits generalizing started coefficient scale with
  | nil =>
      cases point with
      | false => simp_all
      | true => simp
  | cons c others ih =>
      rw [List.forall_mem_cons] at hdigits
      rw [Nat.ofDigitChars_cons] at hcoefficient ⊢
      have hroom : (point && scale == 28) = false := by
        cases point with
        | false => rfl
        | true =>
            rw [if_pos rfl, List.length_cons] at hscale
            rw [Bool.true_and, beq_eq_false_iff_ne]
            omega
      have hfits : 10 * coefficient + (c.toNat - '0'.toNat) < 2 ^ 96 :=
        (le_ofDigitChars others _).trans_lt hcoefficient
      rw [List.cons_append, digits?, hroom, if_neg Bool.false_ne_true, if_pos hdigits.1]
      dsimp only
      rw [if_pos hfits, ih hdigits.2 hcoefficient]
      · cases point with
        | false => simp
        | true => simp [Nat.add_comm, Nat.add_left_comm]
      · cases point with
        | false => rfl
        | true =>
            simp only [↓reduceIte, List.length_cons] at hscale ⊢
            omega

/-- No digit follows the mark of an exponent. -/
theorem digits?_mark
    {point started : Bool} {coefficient scale : Nat} (rest : List Char) :
  digits? point started coefficient scale ('e' :: rest) = none
  := by
  rw [digits?]
  split
  · rw [roundAt?]
    split
    · rfl
    · rfl
  · rfl

/-! ### Positional notation -/

theorem positional?_sign
    (negative : Bool) {text : List Char} (h : ∀ c ∈ text.head?, c.isDigit = true) :
  positional? ((if negative then ['-'] else []) ++ text)
    = (digits? false false 0 0 text).bind fun parts => ofParts? negative parts.1 parts.2
  := by
  cases negative with
  | true => rfl
  | false =>
      rw [if_neg Bool.false_ne_true, List.nil_append]
      rw [positional?]
      · rfl
      · rintro rest rfl
        cases h '-' rfl
      · rintro rest rfl
        cases h '+' rfl

/-- Digits on both sides of a point are read with a place for each digit after it. -/
theorem digits?_point
    {whole fraction : List Char} (rest : List Char) (hne : whole ≠ [])
    (hdigits : ∀ c ∈ whole ++ fraction, c.isDigit = true)
    (hcoefficient : Nat.ofDigitChars 10 (whole ++ fraction) 0 < 2 ^ 96)
    (hscale : fraction.length ≤ 28) :
  digits? false false 0 0 (whole ++ '.' :: (fraction ++ rest))
    = digits? true true (Nat.ofDigitChars 10 (whole ++ fraction) 0) fraction.length rest
  := by
  rw [List.forall_mem_append] at hdigits
  rw [Nat.ofDigitChars_append] at hcoefficient ⊢
  have hstarted : (false || !whole.isEmpty) = true := by
    cases whole with
    | nil => cases hne rfl
    | cons _ _ => rfl
  rw [digits?_append _ hdigits.1 ((le_ofDigitChars _ _).trans_lt hcoefficient) (by simp),
    hstarted]
  have hpoint : ∀ coefficient rest, digits? false true coefficient 0 ('.' :: rest)
      = digits? true true coefficient 0 rest := fun _ _ => rfl
  rw [if_neg Bool.false_ne_true, hpoint,
    digits?_append _ hdigits.2 hcoefficient (by simpa using hscale)]
  simp

/-- Digits without a point are read without places. -/
theorem digits?_whole
    {whole : List Char} (rest : List Char) (hne : whole ≠ [])
    (hdigits : ∀ c ∈ whole, c.isDigit = true)
    (hcoefficient : Nat.ofDigitChars 10 whole 0 < 2 ^ 96) :
  digits? false false 0 0 (whole ++ rest)
    = digits? false true (Nat.ofDigitChars 10 whole 0) 0 rest
  := by
  have hstarted : (false || !whole.isEmpty) = true := by
    cases whole with
    | nil => cases hne rfl
    | cons _ _ => rfl
  rw [digits?_append _ hdigits hcoefficient (by simp), hstarted]
  rfl

/-- A decimal with a coefficient that is not zero has the sign that is written. -/
theorem exists_ofParts?_eq
    (negative : Bool) {coefficient scale : Nat} (hne : coefficient ≠ 0)
    (hcoefficient : coefficient < 2 ^ 96) (hscale : scale ≤ 28) :
  ∃ d, ofParts? negative coefficient scale = some d ∧ d.negative = negative
    ∧ d.coefficient = coefficient ∧ d.scale = scale
  := by
  rw [ofParts?, dif_pos ⟨hcoefficient, hscale⟩]
  refine ⟨_, rfl, ?_, rfl, rfl⟩
  simp [hne]

/-! ### Digits of a number -/

/-- Digits that write a decimal of few digits have no more places than it. -/
structure Fits (d : Digits) (k : Nat) : Prop where
  ne_zero : Nat.ofDigitChars 10 d.digits 0 ≠ 0
  lt : Nat.ofDigitChars 10 d.digits 0 < 10 ^ 15
  places : d.digits.length - d.point ≤ k
  point : d.point ≤ 15
  value_lt : d.value < 10 ^ 15

theorem mod_ten_ne_zero
    {digits before : List Char} {c : Char} (h : digits = before ++ [c])
    (hdigits : ∀ c ∈ digits, c.isDigit = true) (hc : c ≠ '0') :
  Nat.ofDigitChars 10 digits 0 % 10 ≠ 0
  := by
  have hdigit := Char.isDigit_iff_toNat.mp (hdigits c (by simp [h]))
  have hzero : '0'.toNat = 48 := rfl
  have hnine : '9'.toNat = 57 := rfl
  have hne : c.toNat ≠ 48 := by
    intro heq
    apply hc
    apply Char.toNat_inj.mp
    rw [heq, hzero]
  rw [h, Nat.ofDigitChars_append, Nat.ofDigitChars_cons, Nat.ofDigitChars_nil]
  omega

theorem fits_of_writes
    {d : Digits} {n k : Nat} (hn : n < 10 ^ 15) (h : d.Writes ((n : Rat) / 10 ^ k)) :
  Fits d k
  := by
  have hten : (10 : Rat) ≠ 0 := by norm_num
  have hunit : (0 : Rat) < 10 ^ k := by positivity
  obtain ⟨before, c, hlast, hc⟩ := h.last
  have hmod := mod_ten_ne_zero hlast h.isDigit hc
  have hvalue : (Nat.ofDigitChars 10 d.digits 0 : Rat)
      = n * 10 ^ (d.digits.length - d.point - k : Int) := by
    have hscaled := h.value
    rw [Digits.value, eq_div_iff hunit.ne', mul_assoc, ← zpow_natCast, ← zpow_add₀ hten] at hscaled
    rw [← hscaled, mul_assoc, ← zpow_add₀ hten]
    have hzero : d.point - d.digits.length + (k : Int) + (d.digits.length - d.point - k) = 0 := by
      omega
    rw [hzero, zpow_zero, mul_one]
  have hplaces : d.digits.length - d.point ≤ k := by
    -- One more place would leave a zero at the end.
    by_contra hgreater
    obtain ⟨places, hplaces⟩ :=
      Int.le.dest (show (1 : Int) ≤ d.digits.length - d.point - k by omega)
    rw [← hplaces, zpow_add₀ hten, zpow_one, zpow_natCast] at hvalue
    have hnat : Nat.ofDigitChars 10 d.digits 0 = n * (10 * 10 ^ places) := by exact_mod_cast hvalue
    apply hmod
    rw [hnat, Nat.mul_left_comm, Nat.mul_mod_right]
  have hbelow : (n : Rat) / 10 ^ k < 10 ^ 15 := by
    have hn' : (n : Rat) < 10 ^ 15 := by exact_mod_cast hn
    have hone : (1 : Rat) ≤ 10 ^ k := one_le_pow₀ (by norm_num)
    apply (div_le_self (Nat.cast_nonneg n) hone).trans_lt hn'
  refine ⟨?_, ?_, hplaces, ?_, ?_⟩
  · omega
  · have hle : (Nat.ofDigitChars 10 d.digits 0 : Rat) ≤ n := by
      rw [hvalue]
      apply mul_le_of_le_one_right (Nat.cast_nonneg n)
      apply zpow_le_one_of_nonpos₀ (by norm_num) (by omega)
    have hle' : Nat.ofDigitChars 10 d.digits 0 ≤ n := by exact_mod_cast hle
    omega
  · have hlt : (10 : Rat) ^ (d.point - 1) < 10 ^ (15 : Int) := h.first.trans_lt hbelow
    rw [zpow_lt_zpow_iff_right₀ (by norm_num)] at hlt
    omega
  · rw [h.value]
    apply hbelow

/-! ### Texts of digits -/

/-- The sign of a number in front of its text. -/
def signText (negative : Bool) : List Char :=
  if negative then ['-'] else []

/-- A number with a sign. -/
def signed (negative : Bool) (r : Rat) : Rat :=
  if negative then -r else r

/-- A text that is read as a decimal with a value. -/
def ReadsAs (text : List Char) (r : Rat) : Prop :=
  ∃ d, ofText? text = some d ∧ d.value = r

theorem value_eq_signed
    {d : Decimal} {negative : Bool} {coefficient scale : Nat} (hnegative : d.negative = negative)
    (hcoefficient : d.coefficient = coefficient) (hscale : d.scale = scale) :
  d.value = signed negative ((coefficient : Rat) * 10 ^ (-scale : Int))
  := by
  rw [value, hnegative, hcoefficient, hscale, signed, zpow_neg, zpow_natCast, div_eq_mul_inv]

theorem head?_of_append {whole : List Char} (rest : List Char) (hne : whole ≠ [])
    (hdigits : ∀ c ∈ whole, c.isDigit = true) :
  ∀ c ∈ (whole ++ rest).head?, c.isDigit = true
  := by
  intro c hc
  cases whole with
  | nil => cases hne rfl
  | cons first others =>
      cases hc
      apply hdigits c List.mem_cons_self

/-- Digits on both sides of a point are read as they are written. -/
theorem readsAs_point
    (negative : Bool) {whole fraction : List Char} {n : Nat} (hne : whole ≠ [])
    (hdigits : ∀ c ∈ whole ++ fraction, c.isDigit = true)
    (hn : Nat.ofDigitChars 10 (whole ++ fraction) 0 = n) (hnonzero : n ≠ 0) (hlt : n < 2 ^ 96)
    (hscale : fraction.length ≤ 28) :
  ReadsAs (signText negative ++ (whole ++ '.' :: fraction))
    (signed negative ((n : Rat) * 10 ^ (-fraction.length : Int)))
  := by
  rw [← hn] at hnonzero hlt ⊢
  obtain ⟨d, hparts, hnegative, hcoefficient, hplaces⟩ :=
    exists_ofParts?_eq negative hnonzero hlt hscale
  use d
  constructor
  · have hread := digits?_point [] hne hdigits hlt hscale
    rw [List.append_nil] at hread
    rw [ofText?, signText, positional?_sign, hread, digits?, if_pos rfl, Option.bind_some, hparts,
      Option.some_or]
    apply head?_of_append _ hne (List.forall_mem_append.mp hdigits).1
  · apply value_eq_signed hnegative hcoefficient hplaces

theorem isDigit_of_mem_replicate {c : Char} {count : Nat} (h : c ∈ List.replicate count '0') :
  c.isDigit = true
  := by
  rw [(List.mem_replicate.mp h).2]
  rfl

theorem Fits.digits_ne_nil {d : Digits} {k : Nat} (h : Fits d k) :
  d.digits ≠ []
  := by
  intro heq
  apply h.ne_zero
  rw [heq, Nat.ofDigitChars_nil]

section

variable
  (negative : Bool) {d : Digits} {k : Nat} (hdigits : ∀ c ∈ d.digits, c.isDigit = true)
  (h : Fits d k) (hk : k ≤ 22)

include hdigits h hk

/-- Zeros stand between the point and the digits. -/
theorem readsAs_leading_zeros (hlow : -4 ≤ d.point) (hhigh : d.point ≤ 0) :
  ReadsAs
    (signText negative ++ '0' :: '.' :: (List.replicate (-d.point).toNat '0' ++ d.digits))
    (signed negative d.value)
  := by
  have hplaces := h.places
  have hlt := h.lt
  have hn : Nat.ofDigitChars 10 (['0'] ++ (List.replicate (-d.point).toNat '0' ++ d.digits)) 0
      = Nat.ofDigitChars 10 d.digits 0 := by
    rw [Nat.ofDigitChars_append, Nat.ofDigitChars_append, Nat.ofDigitChars_replicate_zero]
    rfl
  have hall : ∀ c ∈ ['0'] ++ (List.replicate (-d.point).toNat '0' ++ d.digits),
      c.isDigit = true := by
    rw [List.forall_mem_append, List.forall_mem_append]
    refine ⟨by simp, fun _ => isDigit_of_mem_replicate, hdigits⟩
  have hlength : (List.replicate (-d.point).toNat '0' ++ d.digits).length
      = (-d.point).toNat + d.digits.length := by
    rw [List.length_append, List.length_replicate]
  have hread := readsAs_point negative (List.cons_ne_nil _ _) hall hn h.ne_zero (by omega)
    (by omega)
  have hexponent : (-((-d.point).toNat + d.digits.length : Nat) : Int)
      = d.point - d.digits.length := by omega
  rw [hlength, hexponent] at hread
  apply hread

omit hk in
/-- Zeros stand between the digits and the point. -/
theorem readsAs_trailing_zeros (hlength : (d.digits.length : Int) ≤ d.point) :
  ReadsAs
    (signText negative
      ++ (d.digits ++ List.replicate (d.point.toNat - d.digits.length) '0' ++ ['.', '0']))
    (signed negative d.value)
  := by
  have hne : d.digits ++ List.replicate (d.point.toNat - d.digits.length) '0' ≠ [] :=
    List.append_ne_nil_of_left_ne_nil h.digits_ne_nil _
  have hn : Nat.ofDigitChars 10 (d.digits
        ++ List.replicate (d.point.toNat - d.digits.length) '0' ++ ['0']) 0
      = 10 * (10 ^ (d.point.toNat - d.digits.length) * Nat.ofDigitChars 10 d.digits 0) := by
    rw [Nat.ofDigitChars_append, Nat.ofDigitChars_append, Nat.ofDigitChars_replicate_zero]
    rfl
  have hall : ∀ c ∈ d.digits ++ List.replicate (d.point.toNat - d.digits.length) '0' ++ ['0'],
      c.isDigit = true := by
    rw [List.forall_mem_append, List.forall_mem_append]
    refine ⟨⟨hdigits, fun _ => isDigit_of_mem_replicate⟩, by simp⟩
  have hexponent : d.point - d.digits.length
      = ((d.point.toNat - d.digits.length : Nat) : Int) := by omega
  have hvalue : d.value = ((10 ^ (d.point.toNat - d.digits.length)
      * Nat.ofDigitChars 10 d.digits 0 : Nat) : Rat) := by
    rw [Digits.value, hexponent, zpow_natCast]
    push_cast
    ring
  have hbound := h.value_lt
  rw [hvalue] at hbound
  have hbound' : 10 ^ (d.point.toNat - d.digits.length) * Nat.ofDigitChars 10 d.digits 0
      < 10 ^ 15 := by exact_mod_cast hbound
  have hnonzero : 10 ^ (d.point.toNat - d.digits.length) * Nat.ofDigitChars 10 d.digits 0 ≠ 0 :=
    Nat.mul_ne_zero (Nat.pow_pos (by norm_num)).ne' h.ne_zero
  have hread := readsAs_point negative hne hall hn (by omega) (by omega) (by simp)
  rw [hvalue]
  convert hread using 2
  push_cast
  norm_num
  ring

/-- The point stands between the digits. -/
theorem readsAs_inner_point (hlow : 0 < d.point) (hhigh : d.point < d.digits.length) :
  ReadsAs
    (signText negative ++ (d.digits.take d.point.toNat ++ '.' :: d.digits.drop d.point.toNat))
    (signed negative d.value)
  := by
  have hplaces := h.places
  have hlt := h.lt
  have hne : d.digits.take d.point.toNat ≠ [] := by
    intro heq
    rcases List.take_eq_nil_iff.mp heq with hzero | hnil
    · omega
    · apply h.digits_ne_nil hnil
  have hn : Nat.ofDigitChars 10 (d.digits.take d.point.toNat ++ d.digits.drop d.point.toNat) 0
      = Nat.ofDigitChars 10 d.digits 0 := by
    rw [List.take_append_drop]
  have hall : ∀ c ∈ d.digits.take d.point.toNat ++ d.digits.drop d.point.toNat,
      c.isDigit = true := by
    rw [List.take_append_drop]
    apply hdigits
  have hread := readsAs_point negative hne hall hn h.ne_zero (by omega)
    (by rw [List.length_drop]; omega)
  have hexponent : (-((d.digits.drop d.point.toNat).length : Nat) : Int)
      = d.point - d.digits.length := by
    rw [List.length_drop]
    omega
  rw [hexponent] at hread
  apply hread

/-- In positional notation the digits stand for what they write. -/
theorem readsAs_positional (hpoint : -4 ≤ d.point) :
  ReadsAs (signText negative ++ Json.positional d) (signed negative d.value)
  := by
  rw [Json.positional]
  split
  · rename_i hsmall
    apply readsAs_leading_zeros negative hdigits h hk hpoint hsmall
  · rename_i hlarge
    dsimp only
    split
    · rename_i hempty
      rw [List.isEmpty_iff, List.drop_eq_nil_iff] at hempty
      have hread := readsAs_trailing_zeros negative hdigits h (by omega)
      rw [List.take_of_length_le hempty]
      apply hread
    · rename_i hmore
      rw [List.isEmpty_iff, List.drop_eq_nil_iff, not_le] at hmore
      have hnone : d.point.toNat - d.digits.length = 0 := by omega
      rw [hnone, List.replicate_zero, List.append_nil]
      apply readsAs_inner_point negative hdigits h hk (by omega) (by omega)

end

/-! ### Scientific notation -/

/-- The digits of a decimal with a point after the first one, if there are more. -/
def mantissaText (digits : List Char) : List Char :=
  digits.take 1 ++ (if (digits.drop 1).isEmpty then [] else '.' :: digits.drop 1)

theorem exists_digits?_mantissaText
    {digits : List Char} (hne : digits ≠ []) (hdigits : ∀ c ∈ digits, c.isDigit = true)
    (hlt : Nat.ofDigitChars 10 digits 0 < 2 ^ 96) (hlength : digits.length ≤ 29) :
  ∃ point, ∀ rest, digits? false false 0 0 (mantissaText digits ++ rest)
    = digits? point true (Nat.ofDigitChars 10 digits 0) (digits.length - 1) rest
  := by
  rw [mantissaText]
  split
  · rename_i hempty
    rw [List.isEmpty_iff, List.drop_eq_nil_iff] at hempty
    have hpos : 0 < digits.length := List.length_pos_iff.mpr hne
    have hzero : digits.length - 1 = 0 := by omega
    use false
    intro rest
    rw [List.take_of_length_le hempty, List.append_nil, digits?_whole rest hne hdigits hlt, hzero]
  · use true
    intro rest
    have hwhole : digits.take 1 ≠ [] := by
      intro heq
      rcases List.take_eq_nil_iff.mp heq with hzero | hnil
      · omega
      · apply hne hnil
    have hread := @digits?_point _ (digits.drop 1) rest hwhole
    rw [List.take_append_drop, List.length_drop] at hread
    rw [List.append_assoc, List.cons_append, hread hdigits hlt (by omega)]

theorem not_mark_of_mem
    {negative : Bool} {digits : List Char} (hdigits : ∀ c ∈ digits, c.isDigit = true) :
  ∀ c ∈ signText negative ++ mantissaText digits, c ≠ 'e' ∧ c ≠ 'E'
  := by
  have hdigit : ∀ c ∈ digits, c ≠ 'e' ∧ c ≠ 'E' := by
    intro c hc
    constructor
    · rintro rfl
      cases hdigits 'e' hc
    · rintro rfl
      cases hdigits 'E' hc
  rw [List.forall_mem_append, mantissaText, List.forall_mem_append]
  refine ⟨?_, fun c hc => hdigit c (List.mem_of_mem_take hc), ?_⟩
  · cases negative <;> simp [signText]
  · split
    · simp
    · rw [List.forall_mem_cons]
      use by decide
      intro c hc
      apply hdigit c (List.mem_of_mem_drop hc)

/-- A text with an exponent is read as the decimal before it, with its point moved. -/
theorem ofText?_exponent
    {negative : Bool} {digits : List Char} (hne : digits ≠ [])
    (hdigits : ∀ c ∈ digits, c.isDigit = true) (hlt : Nat.ofDigitChars 10 digits 0 < 2 ^ 96)
    (hlength : digits.length ≤ 29) {places : Nat} (hplaces : places < 2 ^ 32) :
  ofText? (signText negative ++ mantissaText digits ++ 'e' :: '-' :: Number.natDigits places)
    = (ofParts? negative (Nat.ofDigitChars 10 digits 0) (digits.length - 1)).bind
      fun d => d.shiftLeft? places
  := by
  obtain ⟨point, hread⟩ := exists_digits?_mantissaText hne hdigits hlt hlength
  have hhead : ∀ rest, ∀ c ∈ (mantissaText digits ++ rest).head?, c.isDigit = true := by
    intro rest
    rw [mantissaText, List.append_assoc]
    apply head?_of_append
    · intro heq
      rcases List.take_eq_nil_iff.mp heq with hzero | hnil
      · omega
      · apply hne hnil
    · intro c hc
      apply hdigits c (List.mem_of_mem_take hc)
  have hpositional : positional? (signText negative ++ mantissaText digits
      ++ 'e' :: '-' :: Number.natDigits places) = none := by
    rw [List.append_assoc, signText, positional?_sign _ (hhead _), hread, digits?_mark]
    rfl
  have hmantissa : positional? (signText negative ++ mantissaText digits)
      = ofParts? negative (Nat.ofDigitChars 10 digits 0) (digits.length - 1) := by
    have hall := hhead []
    have hend := hread []
    rw [List.append_nil] at hall hend
    rw [signText, positional?_sign _ hall, hend, digits?, if_pos rfl, Option.bind_some]
  have hexponent : exponent? (Number.natDigits places) = some places := by
    rw [exponent?, Number.unsignedBelow?, Number.unsigned?_natDigits, Option.filter_some,
      if_pos (decide_eq_true hplaces)]
  have hmarks : ∀ c ∈ signText negative ++ mantissaText digits,
      (!(c == 'e' || c == 'E')) = true := by
    intro c hc
    obtain ⟨hsmall, hcapital⟩ := not_mark_of_mem hdigits c hc
    simp [hsmall, hcapital]
  have htake : (signText negative ++ mantissaText digits
      ++ 'e' :: '-' :: Number.natDigits places).takeWhile (fun c => !(c == 'e' || c == 'E'))
      = signText negative ++ mantissaText digits := by
    rw [List.takeWhile_append_of_pos hmarks, List.takeWhile_cons_of_neg (by decide),
      List.append_nil]
  have hdrop : (signText negative ++ mantissaText digits
      ++ 'e' :: '-' :: Number.natDigits places).dropWhile (fun c => !(c == 'e' || c == 'E'))
      = 'e' :: '-' :: Number.natDigits places := by
    rw [List.dropWhile_append_of_pos hmarks, List.dropWhile_cons_of_neg (by decide)]
  rw [ofText?, hpositional, Option.none_or, scientific?]
  simp only [htake, hdrop, hmantissa, hexponent]
  rfl

/-- In scientific notation the digits stand for what they write. -/
theorem readsAs_scientific
    (negative : Bool) {d : Digits} {k : Nat} (hdigits : ∀ c ∈ d.digits, c.isDigit = true)
    (h : Fits d k) (hk : k ≤ 22) (hpoint : d.point < -4) :
  ReadsAs (signText negative ++ Json.scientific d) (signed negative d.value)
  := by
  have hplaces := h.places
  have hlt := h.lt
  have hne := h.digits_ne_nil
  have hpos : 0 < d.digits.length := List.length_pos_iff.mpr hne
  have hsign : d.point - 1 < 0 := by omega
  have htext : Json.scientific d
      = mantissaText d.digits ++ 'e' :: '-' :: Number.natDigits (d.point - 1).natAbs := by
    rw [Json.scientific, if_pos hsign]
    rfl
  obtain ⟨e, hparts, hnegative, hcoefficient, hscale⟩ :=
    @exists_ofParts?_eq negative _ (d.digits.length - 1) h.ne_zero (by omega) (by omega)
  have hread := @ofText?_exponent negative d.digits hne hdigits (by omega) (by omega)
    (d.point - 1).natAbs (by omega)
  rw [hparts, Option.bind_some] at hread
  -- The scale has room for all places, so none is dropped.
  have hnone : e.scale + (d.point - 1).natAbs - 28 = 0 := by omega
  have hmoved : ∃ moved, e.shiftLeft? (d.point - 1).natAbs = some moved
      ∧ moved.negative = e.negative ∧ moved.coefficient = e.coefficient
      ∧ moved.scale = e.scale + (d.point - 1).natAbs := by
    rw [shiftLeft?, dif_pos (by omega)]
    refine ⟨_, rfl, rfl, ?_, ?_⟩
    · dsimp only [dropPlaces]
      rw [hnone]
      rfl
    · dsimp only [dropPlaces]
      omega
  obtain ⟨moved, hshift, hsame, hdigitsSame, hmore⟩ := hmoved
  use moved
  constructor
  · rw [htext, ← List.append_assoc, hread, hshift]
  · have hexponent : (-(e.scale + (d.point - 1).natAbs : Nat) : Int)
        = d.point - d.digits.length := by omega
    rw [value_eq_signed (hsame.trans hnegative) (hdigitsSame.trans hcoefficient) hmore, hexponent,
      Digits.value]

end TableGateway.Decimal
