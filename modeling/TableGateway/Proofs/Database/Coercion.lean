import TableGateway.Proofs.Database.Binding
import TableGateway.Proofs.Sql.Collecting
import TableGateway.Proofs.Text.Blank

/-!
# Binding the values of filters

The value of a filter is coerced by the type of its column before it is bound. A text that
is coerced to a number has no white space in it, so the number is also what the trimmed
text writes; a text that is not coerced is bound as it is.

So the value of a filter has the outcome of the same text in a record: the same parameter,
or the same message. It is never bound to a null.
-/

namespace TableGateway

open Text

/-! ### Numbers are written without white space -/

namespace Number

/-- Digits have no blanks between them. -/
theorem withoutBlank_of_natOfDigits? {text : List Char} {n : Nat} (h : natOfDigits? text = some n) :
  WithoutBlank text
  := by
  intro c hc
  apply isBlank_of_isDigit ((natOfDigits?_eq_some_iff.mp h).2.1 c hc)

theorem withoutBlank_of_unsigned? {text : List Char} {n : Nat} (h : unsigned? text = some n) :
  WithoutBlank text
  := by
  obtain ⟨digits, rfl | rfl, hdigits⟩ := unsigned?_eq_some_iff.mp h
  · apply withoutBlank_of_natOfDigits? hdigits
  · rw [withoutBlank_cons_iff]
    use by decide
    apply withoutBlank_of_natOfDigits? hdigits

/-- An integer is read only from a text without blanks. -/
theorem withoutBlank_of_signed? {text : List Char} {n : Int} (h : signed? text = some n) :
  WithoutBlank text
  := by
  unfold signed? at h
  split at h
  · simp only [Option.bind_eq_bind, Option.map_eq_some_iff, Option.bind_eq_some_iff] at h
    obtain ⟨_, ⟨_, hdigits, -⟩, -⟩ := h
    rw [withoutBlank_cons_iff]
    use by decide
    apply withoutBlank_of_natOfDigits? hdigits
  · obtain ⟨_, hdigits, -⟩ := Option.map_eq_some_iff.mp h
    apply withoutBlank_of_unsigned? hdigits

end Number

namespace Binary64

theorem withoutBlank_of_exponent? {text : List Char} {n : Int} (h : exponent? text = some n) :
  WithoutBlank text
  := by
  cases text with
  | nil => simp [WithoutBlank]
  | cons c rest =>
      obtain ⟨hmark, hinteger⟩ := Option.ite_none_right_eq_some.mp h
      rw [withoutBlank_cons_iff]
      constructor
      · rcases hmark with rfl | rfl <;> decide
      · apply Number.withoutBlank_of_signed? hinteger

/-- A number with a point or an exponent is read only from a text without blanks. -/
theorem withoutBlank_of_unsignedDecimal?
    {text : List Char} {x : Binary64} (h : unsignedDecimal? text = some x) :
  WithoutBlank text
  := by
  simp only [unsignedDecimal?, Option.bind_eq_bind, Option.bind_eq_some_iff] at h
  obtain ⟨_, -, _, hexponent, -⟩ := h
  rw [← List.takeWhile_append_dropWhile (p := Char.isDigit) (l := text), withoutBlank_append_iff]
  use withoutBlank_takeWhile_isDigit text
  split at hexponent
  · rename_i tail hpoint
    rw [hpoint, withoutBlank_cons_iff,
      ← List.takeWhile_append_dropWhile (p := Char.isDigit) (l := tail), withoutBlank_append_iff]
    use by decide, withoutBlank_takeWhile_isDigit tail
    apply withoutBlank_of_exponent? hexponent
  · apply withoutBlank_of_exponent? hexponent

theorem withoutBlank_of_unsigned? {text : List Char} {x : Binary64} (h : unsigned? text = some x) :
  WithoutBlank text
  := by
  simp only [unsigned?] at h
  split at h
  · rename_i hword
    rcases hword with hword | hword
    · apply withoutBlank_of_lower_eq hword (by decide)
    · apply withoutBlank_of_lower_eq hword (by decide)
  · split at h
    · rename_i hword
      apply withoutBlank_of_lower_eq hword (by decide)
    · apply withoutBlank_of_unsignedDecimal? h

/-- A floating-point number is read only from a text without blanks. -/
theorem withoutBlank_of_ofText? {text : List Char} {x : Binary64} (h : ofText? text = some x) :
  WithoutBlank text
  := by
  unfold ofText? at h
  split at h
  · obtain ⟨_, hunsigned, -⟩ := Option.map_eq_some_iff.mp h
    rw [withoutBlank_cons_iff]
    use by decide
    apply withoutBlank_of_unsigned? hunsigned
  · rw [withoutBlank_cons_iff]
    use by decide
    apply withoutBlank_of_unsigned? h
  · apply withoutBlank_of_unsigned? h

end Binary64

/-! ### Values of coerced texts -/

namespace Number

theorem withoutBlank_of_int64? {text : List Char} {n : Int} (h : int64? text = some n) :
  WithoutBlank text
  := by
  rw [int64?, Option.filter_eq_some_iff] at h
  apply withoutBlank_of_signed? h.1

end Number

namespace Argument

open Parameter.Value

/-- The argument for the value of a filter on a column of a type. -/
def ofFilter (type : ColumnType) (text : String) : Argument :=
  ⟨type.coerce text, type⟩

/-- The argument for a text that a record gives to a column of a type. -/
def ofText (type : ColumnType) (text : String) : Argument :=
  ⟨.string text, type⟩

/-- A text is bound as the value that a string has in its column. -/
theorem bind?_ofText (type : ColumnType) (text : String) :
  (ofText type text).bind? = (ofString? type text).map .value
  := rfl

/-- A filter whose text is not coerced, or coerced to what the text itself is bound to. -/
def CoercesAlike (type : ColumnType) (text : String) : Prop :=
  ofFilter type text = ofText type text
    ∨ ∃ value, (ofFilter type text).bind? = some (.value value)
      ∧ ofString? type text = some value

/-- A filter of integers is bound as its text is. -/
theorem coercesAlike_integer
    {type : ColumnType} (htype : type = .int ∨ type = .bigint) (text : String) :
  CoercesAlike type text
  := by
  unfold CoercesAlike ofFilter ColumnType.coerce
  cases h : Number.int64? text.toList with
  | none =>
      left
      rcases htype with rfl | rfl <;> rfl
  | some n =>
      have htrim := (Number.withoutBlank_of_int64? h).trim_eq
      have hbound := (Option.filter_eq_some_iff.mp h).2
      right
      use .integer (.ofInt n)
      rcases htype with rfl | rfl <;>
        simp [bind?, ofJson?, ofNumber?, ofString?, ofInt?, hbound, htrim, h]

/-- The text of a number that is not finite is not coerced. -/
theorem coercesAlike_float (text : String) :
  CoercesAlike .float text
  := by
  unfold CoercesAlike ofFilter ColumnType.coerce
  cases h : Binary64.ofText? text.toList with
  | none => exact .inl rfl
  | some x =>
      have htrim := (Binary64.withoutBlank_of_ofText? h).trim_eq
      by_cases hfinite : x.isFinite
      · right
        use .float x
        simp [Json.ofBinary64?, bind?, ofJson?, ofNumber?, ofString?, hfinite, htrim, h]
      · left
        simp [Json.ofBinary64?, ofText, hfinite]

/-- A filter of truth values is bound as its text is. -/
theorem coercesAlike_boolean (text : String) :
  CoercesAlike .boolean text
  := by
  unfold CoercesAlike ofFilter ColumnType.coerce
  cases h : boolOfWord? text.toList with
  | none => exact .inl rfl
  | some b =>
      right
      use .boolean b
      simp [bind?, ofJson?, ofString?, h]

/-- A filter is bound as its text is, whatever the type of its column. -/
theorem coercesAlike (type : ColumnType) (text : String) :
  CoercesAlike type text
  := by
  cases type with
  | int => apply coercesAlike_integer (.inl rfl)
  | bigint => apply coercesAlike_integer (.inr rfl)
  | float => apply coercesAlike_float
  | boolean => apply coercesAlike_boolean
  | string | decimal | json | timestamp | time | uuid | bytes => exact .inl rfl

/-! ### Outcomes of binding -/

/-- What becomes of an argument with a number: its parameter, or the message that it does not
suit its column. -/
def outcome (number : Nat) (argument : Argument) : Except String Parameter :=
  match argument.bind? with
  | some parameter => .ok parameter
  | none => .error (BindingError.message ⟨number, argument⟩)

/-- What becomes of arguments, of which the first has a given number: their parameters, or the
message about the first that does not suit its column. -/
def outcomes (number : Nat) (arguments : List Argument) : Except String (List Parameter) :=
  (bindFrom number arguments).mapError BindingError.message

/-- Arguments are bound one after the other, with consecutive numbers. -/
theorem outcomes_cons (number : Nat) (argument : Argument) (rest : List Argument) :
  outcomes number (argument :: rest)
    = do
      let parameter ← argument.outcome number
      let parameters ← outcomes (number + 1) rest
      return parameter :: parameters
  := by
  rw [outcomes, bindFrom, outcome, outcomes]
  cases argument.bind? with
  | none => rfl
  | some parameter => cases bindFrom (number + 1) rest <;> rfl

/-- Arguments that have the same outcomes one by one have them together. -/
theorem outcomes_congr
    {arguments others : List Argument}
    (h : List.Forall₂
      (fun argument other => ∀ number, argument.outcome number = other.outcome number)
      arguments others)
    (number : Nat) :
  outcomes number arguments = outcomes number others
  := by
  induction h generalizing number with
  | nil => rfl
  | cons hfirst _ ih => rw [outcomes_cons, outcomes_cons, hfirst, ih]

/-- A filter has the outcome of its text. -/
theorem outcome_ofFilter (number : Nat) (type : ColumnType) (text : String) :
  (ofFilter type text).outcome number = (ofText type text).outcome number
  := by
  rcases coercesAlike type text with h | ⟨value, hfilter, htext⟩
  · rw [h]
  · rw [outcome, hfilter, outcome, bind?_ofText, htext]
    rfl

/-- A text is not bound to a null. -/
theorem outcome_ofText_ne_null
    (number : Nat) (type : ColumnType) (text : String) (kind : Parameter.Kind) :
  (ofText type text).outcome number ≠ .ok (.null kind)
  := by
  rw [outcome, bind?_ofText]
  cases ofString? type text <;> simp

/-- The value of a filter has the outcome of the same text in a record, alone and among the
arguments of a statement, and it is not bound to a null. -/
theorem filter_bound_as_text :
  (∀ (type : ColumnType) (text : String) (number : Nat),
      (ofFilter type text).outcome number = (ofText type text).outcome number
      ∧ ∀ kind, (ofFilter type text).outcome number ≠ .ok (.null kind))
    ∧ ∀ (before after : List Argument) (column : Column) (condition : Condition) (number : Nat),
      outcomes number (before ++ Statement.conditionArguments column condition ++ after)
        = outcomes number (before ++ condition.values.map (ofText column.type) ++ after)
  := by
  constructor
  · intro type text number
    use outcome_ofFilter number type text
    intro kind
    rw [outcome_ofFilter]
    apply outcome_ofText_ne_null
  · intro before after column condition number
    have hsame : ∀ arguments : List Argument, List.Forall₂
        (fun argument other => ∀ number, argument.outcome number = other.outcome number)
        arguments arguments := fun _ => List.forall₂_same.mpr fun _ _ _ => rfl
    apply outcomes_congr
    apply List.rel_append (List.rel_append (hsame before) _) (hsame after)
    rw [Statement.conditionArguments, List.forall₂_map_left_iff, List.forall₂_map_right_iff,
      List.forall₂_same]
    intro text _ number
    apply outcome_ofFilter

end Argument

end TableGateway
