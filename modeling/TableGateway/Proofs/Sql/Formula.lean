import TableGateway.Proofs.Sql.Reading

/-!
# Formulas of conditions

A condition is a formula of tests, which conjunctions bind tighter than disjunctions and
which parentheses group. It is evaluated in three-valued logic, where a test may be neither
true nor false.

The grammar says which parts of a condition are read as which formula. A machine that goes
through the parts from left to right, with a frame for each open parenthesis, finds the
formula of every reading. So no condition is read in two ways.
-/

namespace TableGateway.Sql

open Outcome

/-! ### Three-valued logic -/

/-- The value of a condition on a row. -/
inductive Truth where
  | false
  | unknown
  | true
  deriving DecidableEq

namespace Truth

/-- The value that is true exactly when a flag is set. -/
def ofBool : Bool → Truth
  | .true => true
  | .false => false

/-- The negation, which leaves open what is open. -/
def not : Truth → Truth
  | true => false
  | unknown => unknown
  | false => true

/-- The conjunction, which is false as soon as one side is. -/
def and : Truth → Truth → Truth
  | false, _ | _, false => false
  | true, value => value
  | value, true => value
  | unknown, unknown => unknown

/-- The disjunction, which is true as soon as one side is. -/
def or : Truth → Truth → Truth
  | true, _ | _, true => true
  | false, value => value
  | value, false => value
  | unknown, unknown => unknown

/-- The conjunction of any number of values. -/
def all (values : List Truth) : Truth :=
  values.foldl and true

/-- The disjunction of any number of values. -/
def any (values : List Truth) : Truth :=
  values.foldl or false

theorem all_cons (first : Truth) (rest : List Truth) :
  all (first :: rest) = rest.foldl and first
  := by
  cases first <;> rfl

theorem any_cons (first : Truth) (rest : List Truth) :
  any (first :: rest) = rest.foldl or first
  := by
  cases first <;> rfl

end Truth

/-- What tests say of values: which values are null, and how a value compares with an
argument. -/
structure Interpretation (V : Type) where
  isNull : V → Bool
  compare : Operator → V → Json → Truth

namespace Interpretation

variable {V : Type} (interpretation : Interpretation V)

/-- The value of a null test. -/
def nullTest (operator : Operator) (value : V) : Truth :=
  if operator = .isNull then .ofBool (interpretation.isNull value)
  else (Truth.ofBool (interpretation.isNull value)).not

/-- The value of a membership: whether the value equals one of the arguments, or none. -/
def membership (operator : Operator) (value : V) (arguments : List Json) : Truth :=
  let found := Truth.any (arguments.map (interpretation.compare .equal value))
  if operator = .oneOf then found else found.not

end Interpretation

/-! ### Formulas -/

/-- A condition as a formula. Arguments are given by their numbers. -/
inductive Formula where
  | nullTest (column : String) (operator : Operator)
  | comparison (column : String) (operator : Operator) (argument : Nat)
  | membership (column : String) (operator : Operator) (arguments : List Nat)
  | conjunction (left right : Formula)
  | disjunction (left right : Formula)
  deriving DecidableEq

/-- The argument of a number; numbers begin with one. -/
def argument? (arguments : List Json) : Nat → Option Json
  | 0 => none
  | number + 1 => arguments[number]?

namespace Formula

/-- The value of a formula on a row that gives values to columns, if it has all arguments. -/
def eval {V : Type} (interpretation : Interpretation V) (row : String → V)
    (arguments : List Json) : Formula → Option Truth
  | nullTest column operator => some (interpretation.nullTest operator (row column))
  | comparison column operator argument =>
    (argument? arguments argument).map (interpretation.compare operator (row column))
  | membership column operator numbers =>
    (numbers.mapM (argument? arguments)).map (interpretation.membership operator (row column))
  | conjunction left right => do
    return (← left.eval interpretation row arguments).and
      (← right.eval interpretation row arguments)
  | disjunction left right => do
    return (← left.eval interpretation row arguments).or
      (← right.eval interpretation row arguments)

/-! ### The grammar of conditions -/

/-- The test that a part of a condition is. -/
def ofItem? : Item → Option Formula
  | .nullTest column operator => some (nullTest column operator)
  | .comparison column operator argument => some (comparison column operator argument)
  | .membership column operator arguments => some (membership column operator arguments)
  | _ => none

/-- What binds how tight: a single test or a group, a conjunction of these, a disjunction of
conjunctions. -/
inductive Level where
  | test
  | conjunction
  | disjunction

/-- Parts of a condition that are read as a formula of a level. -/
inductive Reads : Level → List Item → Formula → Prop
  | test {item : Item} {formula : Formula} (h : ofItem? item = some formula) :
      Reads .test [item] formula
  | group {items : List Item} {formula : Formula} (h : Reads .disjunction items formula) :
      Reads .test (.opening :: (items ++ [.closing])) formula
  | ofTest {items : List Item} {formula : Formula} (h : Reads .test items formula) :
      Reads .conjunction items formula
  | conjunction {items others : List Item} {left right : Formula}
      (hleft : Reads .conjunction items left) (hright : Reads .test others right) :
      Reads .conjunction (items ++ .conjunction :: others) (.conjunction left right)
  | ofConjunction {items : List Item} {formula : Formula}
      (h : Reads .conjunction items formula) :
      Reads .disjunction items formula
  | disjunction {items others : List Item} {left right : Formula}
      (hleft : Reads .disjunction items left) (hright : Reads .conjunction others right) :
      Reads .disjunction (items ++ .disjunction :: others) (.disjunction left right)

/-- A text that is read as a condition of a formula. -/
def ReadsText (text : String) (formula : Formula) : Prop :=
  ∃ items, items? text = some items ∧ Reads .disjunction items formula

/-! ### One reading -/

/-- What has been read of a disjunction: the disjunction up to the last connective of this
kind, and the conjunction after it up to the last connective. -/
structure Frame where
  disjuncts : Option Formula
  conjuncts : Option Formula

namespace Frame

/-- The frame of which nothing has been read. -/
def empty : Frame where
  disjuncts := none
  conjuncts := none

/-- The last conjunction, with one more formula. -/
def conjoin (frame : Frame) (formula : Formula) : Formula :=
  frame.conjuncts.elim formula fun conjuncts => .conjunction conjuncts formula

/-- The whole disjunction, with one more formula in its last conjunction. -/
def disjoin (frame : Frame) (formula : Formula) : Formula :=
  frame.disjuncts.elim (frame.conjoin formula) fun disjuncts =>
    .disjunction disjuncts (frame.conjoin formula)

end Frame

/-- One more part, after the frames of all open parentheses and after a test or a group if one
stands in front of the part. -/
def shift : List Frame × Option Formula → Item → Option (List Frame × Option Formula)
  | (frames, none), item =>
    if item = .opening then some (.empty :: frames, none)
    else (ofItem? item).map fun formula => (frames, some formula)
  | (frame :: frames, some formula), item =>
    match item with
    | .conjunction => some ({ frame with conjuncts := frame.conjoin formula } :: frames, none)
    | .disjunction => some (⟨frame.disjoin formula, none⟩ :: frames, none)
    | .closing => some (frames, frame.disjoin formula)
    | _ => none
  | ([], some _), _ => none

/-- The formula of a whole condition. -/
def ofItems? (items : List Item) : Option Formula :=
  match items.foldlM shift ([.empty], none) with
  | some ([frame], some formula) => some (frame.disjoin formula)
  | _ => none

/-- What the machine does with the parts of a formula of each level, in any frame or in a
frame of which nothing has been read. -/
def IsShifted (items : List Item) (formula : Formula) : Level → Prop
  | .test => ∀ frames, items.foldlM shift (frames, none) = some (frames, some formula)
  | .conjunction => ∀ frames disjuncts, ∃ conjuncts last,
    items.foldlM shift (⟨disjuncts, none⟩ :: frames, none)
        = some (⟨disjuncts, conjuncts⟩ :: frames, some last)
      ∧ (⟨disjuncts, conjuncts⟩ : Frame).conjoin last = formula
  | .disjunction => ∀ frames, ∃ frame last,
    items.foldlM shift (.empty :: frames, none) = some (frame :: frames, some last)
      ∧ frame.disjoin last = formula

/-- The machine makes of items the formula that they are read as. -/
theorem Reads.isShifted {level : Level} {items : List Item} {formula : Formula}
    (h : Reads level items formula) :
  IsShifted items formula level
  := by
  induction h with
  | @test item formula h =>
      intro frames
      have hopening : item ≠ .opening := by
        rintro rfl
        cases h
      simp [shift, hopening, h]
  | @group items formula _ ih =>
      intro frames
      obtain ⟨frame, last, hshift, rfl⟩ := ih frames
      have hopening : [Item.opening].foldlM shift (frames, none)
          = some (.empty :: frames, none) := rfl
      have hclosing : [Item.closing].foldlM shift (frame :: frames, some last)
          = some (frames, some (frame.disjoin last)) := rfl
      apply foldlM_append_eq_some hopening (foldlM_append_eq_some hshift hclosing)
  | @ofTest items formula _ ih =>
      intro frames disjuncts
      use none, formula, ih _
      rfl
  | @conjunction items others left right _ _ ihleft ihright =>
      intro frames disjuncts
      obtain ⟨conjuncts, last, hshift, rfl⟩ := ihleft frames disjuncts
      use some (Frame.conjoin ⟨disjuncts, conjuncts⟩ last), right
      constructor
      · rw [List.append_cons]
        apply foldlM_append_eq_some _ (ihright _)
        apply foldlM_append_eq_some hshift
        rfl
      · rfl
  | @ofConjunction items formula _ ih =>
      intro frames
      obtain ⟨conjuncts, last, hshift, rfl⟩ := ih frames none
      use ⟨none, conjuncts⟩, last, hshift
      rfl
  | @disjunction items others left right _ _ ihleft ihright =>
      intro frames
      obtain ⟨frame, last, hleft, rfl⟩ := ihleft frames
      obtain ⟨conjuncts, next, hright, rfl⟩ := ihright frames (some (frame.disjoin last))
      use ⟨some (frame.disjoin last), conjuncts⟩, next
      constructor
      · rw [List.append_cons]
        apply foldlM_append_eq_some _ hright
        apply foldlM_append_eq_some hleft
        rfl
      · rfl

/-- Items are read as the one formula that they write. -/
theorem ofItems?_of_reads {items : List Item} {formula : Formula}
    (h : Reads .disjunction items formula) :
  ofItems? items = some formula
  := by
  obtain ⟨frame, last, hshift, rfl⟩ := h.isShifted []
  rw [ofItems?, hshift]

/-- A condition is read in one way only. -/
theorem ReadsText.unique {text : String} {formula other : Formula}
    (h : ReadsText text formula) (hother : ReadsText text other) :
  formula = other
  := by
  obtain ⟨items, hitems, h⟩ := h
  obtain ⟨others, hothers, hother⟩ := hother
  rw [hitems, Option.some.injEq] at hothers
  subst hothers
  rw [← Option.some.injEq, ← ofItems?_of_reads h, ofItems?_of_reads hother]

example :
  (items? "a = $1 OR b = $2 AND (c = $3 OR d IS NULL)").bind ofItems?
    = some (disjunction (comparison "a" .equal 1) (conjunction (comparison "b" .equal 2)
      (disjunction (comparison "c" .equal 3) (nullTest "d" .isNull))))
  := by
  rfl

end Formula

end TableGateway.Sql
