import Mathlib.Data.List.Induction
import Mathlib.Tactic.Use
import TableGateway.Proofs.Database.Coercion

/-!
# Integers as arguments

A column of integers takes the integers of sixty-four bits: as JSON integers, and as texts of
an optional sign and digits, which may have white space around them. Which texts denote which
integers is said by a grammar; the reader of integers gives just the integers that the grammar
gives.

So an argument of such a column is bound to the integer that it denotes, or the request is
refused: no integer is wrapped, cut or rounded, and no fraction is taken for an integer. The
value of a filter denotes what its text denotes.
-/

namespace TableGateway

/-! ### Digits and signs -/

namespace Number

/-- Digits that denote a number: one digit, or a digit for the units after digits for the
tens. -/
inductive DigitsDenote : List Char → Nat → Prop
  | one {c : Char} (hc : c.isDigit = true) : DigitsDenote [c] (c.toNat - '0'.toNat)
  | more {digits : List Char} {n : Nat} {c : Char} (h : DigitsDenote digits n)
      (hc : c.isDigit = true) :
      DigitsDenote (digits ++ [c]) (10 * n + (c.toNat - '0'.toNat))

/-- A text that denotes an integer: digits after an optional sign. -/
inductive Denotes : List Char → Int → Prop
  | plain {digits : List Char} {n : Nat} (h : DigitsDenote digits n) : Denotes digits n
  | plus {digits : List Char} {n : Nat} (h : DigitsDenote digits n) : Denotes ('+' :: digits) n
  | minus {digits : List Char} {n : Nat} (h : DigitsDenote digits n) :
      Denotes ('-' :: digits) (-n)

theorem natOfDigits?_of_digitsDenote {digits : List Char} {n : Nat} (h : DigitsDenote digits n) :
  natOfDigits? digits = some n
  := by
  rw [natOfDigits?_eq_some_iff]
  induction h with
  | @one c hc =>
      refine ⟨by simp, by simpa using hc, ?_⟩
      rw [Nat.ofDigitChars_cons, Nat.mul_zero, Nat.zero_add]
      rfl
  | more _ hc ih =>
      obtain ⟨_, hdigits, rfl⟩ := ih
      refine ⟨by simp, ?_, ?_⟩
      · rw [List.forall_mem_append, List.forall_mem_singleton]
        use hdigits, hc
      · rw [Nat.ofDigitChars_append, Nat.ofDigitChars_cons]
        rfl

theorem digitsDenote_ofDigitChars
    {digits : List Char} (hne : digits ≠ []) (h : ∀ c ∈ digits, c.isDigit = true) :
  DigitsDenote digits (Nat.ofDigitChars 10 digits 0)
  := by
  induction digits using List.reverseRecOn with
  | nil => cases hne rfl
  | append_singleton digits c ih =>
      rw [List.forall_mem_append, List.forall_mem_singleton] at h
      rw [Nat.ofDigitChars_append, Nat.ofDigitChars_cons]
      cases digits with
      | nil =>
          have hone := DigitsDenote.one h.2
          simpa using hone
      | cons first rest => apply DigitsDenote.more (ih (List.cons_ne_nil _ _) h.1) h.2

theorem natOfDigits?_eq_some_iff_digitsDenote {text : List Char} {n : Nat} :
  natOfDigits? text = some n ↔ DigitsDenote text n
  := by
  constructor
  · intro h
    obtain ⟨hne, hdigits, rfl⟩ := natOfDigits?_eq_some_iff.mp h
    apply digitsDenote_ofDigitChars hne hdigits
  · apply natOfDigits?_of_digitsDenote

/-- The reader of integers gives what the grammar gives. -/
theorem signed?_eq_some_iff {text : List Char} {n : Int} :
  signed? text = some n ↔ Denotes text n
  := by
  constructor
  · intro h
    unfold signed? at h
    split at h
    · simp only [Option.bind_eq_bind, Option.map_eq_some_iff, Option.bind_eq_some_iff] at h
      obtain ⟨_, ⟨n, hdigits, hn⟩, rfl⟩ := h
      cases hn
      apply Denotes.minus (natOfDigits?_eq_some_iff_digitsDenote.mp hdigits)
    · obtain ⟨_, hunsigned, rfl⟩ := Option.map_eq_some_iff.mp h
      obtain ⟨digits, rfl | rfl, hdigits⟩ := unsigned?_eq_some_iff.mp hunsigned
      · apply Denotes.plain (natOfDigits?_eq_some_iff_digitsDenote.mp hdigits)
      · apply Denotes.plus (natOfDigits?_eq_some_iff_digitsDenote.mp hdigits)
  · rintro (h | h | h)
    · rename_i n
      have hdigits := natOfDigits?_of_digitsDenote h
      have hunsigned : unsigned? text = some n :=
        unsigned?_eq_some_iff.mpr ⟨text, .inl rfl, hdigits⟩
      unfold signed?
      split
      · cases (natOfDigits?_eq_some_iff.mp hdigits).2.1 '-' List.mem_cons_self
      · rw [hunsigned]
        rfl
    · rw [signed?, unsigned?, natOfDigits?_of_digitsDenote h]
      · rfl
      · rintro digits ⟨⟩
    · rw [signed?, natOfDigits?_of_digitsDenote h]
      rfl

end Number

/-! ### Arguments -/

/-- A JSON value that denotes an integer: the integer itself, or a string of a text for it with
white space around. -/
inductive Json.Denotes : Json → Int → Prop
  | integer (n : Int) : Denotes (.number (.integer n)) n
  | string {text : String} {part : List Char} {n : Int} (h : Text.Surrounds text.toList part)
      (hpart : Number.Denotes part n) : Denotes (.string text) n

theorem Json.denotes_string_iff {text : String} {n : Int} :
  (Json.string text).Denotes n ↔ Number.signed? (Text.trim text.toList) = some n
  := by
  rw [Number.signed?_eq_some_iff]
  constructor
  · rintro ⟨⟩
    rename_i part hsurrounds hpart
    have hblank := Number.withoutBlank_of_signed? (Number.signed?_eq_some_iff.mpr hpart)
    rw [hsurrounds.trim_eq hblank]
    apply hpart
  · apply Denotes.string (Text.surrounds_trim _)

namespace Argument

open Parameter.Value

/-- An outcome that is just the integer of sixty-four bits that is denoted, or the refusal where
there is none. -/
structure IsExact (outcome : Except String Parameter) (denotes : Int → Prop) (refusal : String) :
    Prop where
  bound : ∀ parameter, outcome = .ok parameter
    ↔ ∃ n : Int64, denotes n.toInt ∧ parameter = .value (.integer n)
  refused : ∀ message, outcome = .error message
    ↔ (∀ n : Int, denotes n → n < -2 ^ 63 ∨ 2 ^ 63 ≤ n) ∧ message = refusal

theorem ofInt?_eq_some_iff {n : Int} {value : Parameter.Value} :
  ofInt? n = some value ↔ ∃ m : Int64, m.toInt = n ∧ value = .integer m
  := by
  rw [ofInt?, Option.ite_none_right_eq_some, Number.isInt64, Bool.and_eq_true, decide_eq_true_eq,
    decide_eq_true_eq]
  constructor
  · rintro ⟨⟨hlow, hhigh⟩, h⟩
    cases h
    use .ofInt n
    rw [Int64.toInt_ofInt_of_le hlow hhigh]
    trivial
  · rintro ⟨m, rfl, rfl⟩
    use ⟨m.le_toInt, m.toInt_lt⟩
    rw [Int64.ofInt_toInt]

/-- A text of sixty-four bits is read before the integer is taken. -/
theorem bind_int64?_eq {text : List Char} :
  (Number.int64? text).bind ofInt? = (Number.signed? text).bind ofInt?
  := by
  rw [Number.int64?]
  cases Number.signed? text with
  | none => rfl
  | some n =>
      by_cases h : Number.isInt64 n
      · simp [Option.filter, h]
      · simp [Option.filter, ofInt?, h]

/-- A column of integers takes what denotes an integer of sixty-four bits. -/
theorem bind?_eq_some_iff_denotes
    {type : ColumnType} (htype : type = .int ∨ type = .bigint) {value : Json}
    (hvalue : value ≠ .null) {parameter : Parameter} :
  bind? ⟨value, type⟩ = some parameter
    ↔ ∃ n : Int64, value.Denotes n.toInt ∧ parameter = .value (.integer n)
  := by
  have hnone : (∀ n, ¬ value.Denotes n) → bind? ⟨value, type⟩ = none →
      (bind? ⟨value, type⟩ = some parameter
        ↔ ∃ n : Int64, value.Denotes n.toInt ∧ parameter = .value (.integer n)) := by
    intro hdenotes hbind
    rw [hbind]
    constructor
    · rintro ⟨⟩
    · rintro ⟨n, hn, -⟩
      cases hdenotes _ hn
  cases value with
  | null => cases hvalue rfl
  | bool _ | array _ | object _ =>
      apply hnone
      · rintro n ⟨⟩
      · rcases htype with rfl | rfl <;> rfl
  | number number =>
      cases number with
      | float x =>
          apply hnone
          · rintro n ⟨⟩
          · rcases htype with rfl | rfl <;> rfl
      | integer m =>
          have hbind : bind? ⟨.number (.integer m), type⟩ = (ofInt? m).map .value := by
            rcases htype with rfl | rfl <;> rfl
          rw [hbind, Option.map_eq_some_iff]
          simp only [ofInt?_eq_some_iff]
          constructor
          · rintro ⟨_, ⟨n, rfl, rfl⟩, rfl⟩
            use n, .integer _
          · rintro ⟨n, ⟨⟩, rfl⟩
            use .integer n, ⟨n, rfl, rfl⟩
  | string text =>
      have hbind : bind? ⟨.string text, type⟩
          = ((Number.signed? (Text.trim text.toList)).bind ofInt?).map .value := by
        rw [← bind_int64?_eq]
        rcases htype with rfl | rfl <;> rfl
      rw [hbind, Option.map_eq_some_iff]
      simp only [Json.denotes_string_iff, Option.bind_eq_some_iff, ofInt?_eq_some_iff]
      constructor
      · rintro ⟨_, ⟨_, hn, n, rfl, rfl⟩, rfl⟩
        use n, hn
      · rintro ⟨n, hn, rfl⟩
        use .integer n, ⟨n.toInt, hn, n, rfl, rfl⟩

theorem isExact_outcome
    {type : ColumnType} (htype : type = .int ∨ type = .bigint) {value : Json}
    (hvalue : value ≠ .null) (number : Nat) :
  IsExact (outcome number ⟨value, type⟩) value.Denotes
    (BindingError.message ⟨number, ⟨value, type⟩⟩)
  := by
  have hbind := @bind?_eq_some_iff_denotes type htype value hvalue
  constructor
  · intro parameter
    rw [← hbind, outcome]
    cases bind? ⟨value, type⟩ <;> simp
  · intro message
    have hnone : bind? ⟨value, type⟩ = none
        ↔ ∀ n : Int, value.Denotes n → n < -2 ^ 63 ∨ 2 ^ 63 ≤ n := by
      rw [Option.eq_none_iff_forall_ne_some]
      constructor
      · intro h n hn
        by_contra hbounds
        rw [not_or, Int.not_lt, Int.not_le] at hbounds
        apply h (.value (.integer (.ofInt n)))
        apply hbind.mpr
        use .ofInt n
        rw [Int64.toInt_ofInt_of_le hbounds.1 hbounds.2]
        use hn
      · intro h parameter hsome
        obtain ⟨n, hn, -⟩ := hbind.mp hsome
        have hlow := n.le_toInt
        have hhigh := n.toInt_lt
        have hbounds := h _ hn
        omega
    rw [← hnone, outcome]
    cases bind? ⟨value, type⟩ <;> simp [eq_comm]

/-- An argument for a column of integers is bound to the integer that it denotes if that has
sixty-four bits, and is refused otherwise. The value of a filter denotes what its text does. -/
theorem integers_bound_exactly {type : ColumnType} (htype : type = .int ∨ type = .bigint) :
  (∀ value : Json, value ≠ .null → ∀ number,
      IsExact (outcome number ⟨value, type⟩) value.Denotes
        (BindingError.message ⟨number, ⟨value, type⟩⟩))
    ∧ ∀ (text : String) (number : Nat),
      IsExact (outcome number (ofFilter type text)) (Json.string text).Denotes
        (BindingError.message ⟨number, ofText type text⟩)
  := by
  constructor
  · intro value hvalue number
    apply isExact_outcome htype hvalue
  · intro text number
    rw [outcome_ofFilter]
    apply isExact_outcome htype
    rintro ⟨⟩

/-- The least integer, written with a sign, leading zeros and white space around it, is taken;
the text of the integer before it is refused. -/
theorem integers_bound_exactly_least :
  (ColumnType.bigint = .int ∨ ColumnType.bigint = .bigint)
    ∧ Json.string " -009223372036854775808\n" ≠ .null
    ∧ outcome 1 ⟨.string " -009223372036854775808\n", .bigint⟩
      = .ok (.value (.integer (.ofInt (-2 ^ 63))))
    ∧ outcome 1 (ofFilter .bigint "-9223372036854775809")
      = .error "argument $1: invalid bigint value: \"-9223372036854775809\""
  := by
  have hexact := @integers_bound_exactly .bigint (.inr rfl)
  have hvalue : Json.string " -009223372036854775808\n" ≠ .null := by rintro ⟨⟩
  refine ⟨.inr rfl, hvalue, ?_, ?_⟩
  · apply ((hexact.1 _ hvalue 1).bound _).mpr
    use .ofInt (-2 ^ 63)
    constructor
    · rw [Json.denotes_string_iff]
      decide +kernel
    · rfl
  · apply ((hexact.2 "-9223372036854775809" 1).refused _).mpr
    constructor
    · intro n hn
      rw [Json.denotes_string_iff] at hn
      have hread : Number.signed? (Text.trim "-9223372036854775809".toList)
          = some (-9223372036854775809) := by
        decide +kernel
      rw [hread] at hn
      cases hn
      omega
    · decide +kernel

end Argument

end TableGateway
