import TableGateway.Database.Binding
import TableGateway.Proofs.Outcome

/-!
# Binding the arguments of statements

The arguments of a statement are bound exactly when each of them suits its column, and there
is then one parameter for each argument, in order. Otherwise the error is about the first
argument that does not suit its column.
-/

namespace TableGateway.Argument

open Outcome

/-- Parameters for arguments, one for each in order. -/
def BoundTo (arguments : List Argument) (parameters : List Parameter) : Prop :=
  List.Forall₂ (fun argument parameter => argument.bind? = some parameter) arguments parameters

/-- Arguments each of which suits its column. -/
def AllSuit (arguments : List Argument) : Prop :=
  ∀ argument ∈ arguments, argument.bind?.isSome

/-- The argument at an index is the first one that does not suit its column. -/
structure FirstMisfit (arguments : List Argument) (index : Nat) (argument : Argument) :
    Prop where
  found : arguments[index]? = some argument
  misfit : argument.bind? = none
  before : AllSuit (arguments.take index)

theorem exists_boundTo_iff {arguments : List Argument} :
  (∃ parameters, BoundTo arguments parameters) ↔ AllSuit arguments
  := by
  simp only [BoundTo, exists_forall₂_iff, AllSuit, Option.isSome_iff_exists]

/-! ### The first misfit -/

theorem FirstMisfit.not_allSuit
    {arguments : List Argument} {index : Nat} {argument : Argument}
    (h : FirstMisfit arguments index argument) :
  ¬ AllSuit arguments
  := by
  intro hall
  have hsome := hall argument (List.mem_of_getElem? h.found)
  rw [h.misfit] at hsome
  cases hsome

theorem firstMisfit_cons_of_misfit {argument : Argument} (h : argument.bind? = none)
    (rest : List Argument) :
  FirstMisfit (argument :: rest) 0 argument
  := by
  constructor
  · rfl
  · apply h
  · simp [AllSuit]

theorem FirstMisfit.cons
    {rest : List Argument} {index : Nat} {misfit : Argument} (h : FirstMisfit rest index misfit)
    {argument : Argument} {parameter : Parameter} (hfirst : argument.bind? = some parameter) :
  FirstMisfit (argument :: rest) (index + 1) misfit
  := by
  constructor
  · rw [List.getElem?_cons_succ, h.found]
  · apply h.misfit
  · rw [List.take_succ_cons, AllSuit, List.forall_mem_cons, hfirst]
    use rfl
    apply h.before

/-- There is only one first misfit. -/
theorem FirstMisfit.unique
    {arguments : List Argument} {index index' : Nat} {argument argument' : Argument}
    (h : FirstMisfit arguments index argument) (h' : FirstMisfit arguments index' argument') :
  index = index' ∧ argument = argument'
  := by
  -- A misfit in front of the other one would have to suit its column.
  have hnot : ∀ {i j : Nat} {a b : Argument}, FirstMisfit arguments i a →
      FirstMisfit arguments j b → ¬ i < j := by
    intro i j a b ha hb hlt
    have hmem : a ∈ arguments.take j := by
      apply List.mem_of_getElem?
      rw [List.getElem?_take_of_lt hlt, ha.found]
    have hsome := hb.before a hmem
    rw [ha.misfit] at hsome
    cases hsome
  obtain rfl : index = index' := by
    have hlt := hnot h h'
    have hgt := hnot h' h
    omega
  use rfl
  apply Option.some.inj
  rw [← h.found, ← h'.found]

/-! ### Binding -/

theorem bindFrom_eq_ok_iff
    {number : Nat} {arguments : List Argument} {parameters : List Parameter} :
  bindFrom number arguments = .ok parameters ↔ BoundTo arguments parameters
  := by
  induction arguments generalizing number parameters with
  | nil =>
      simp only [bindFrom, BoundTo, List.forall₂_nil_left_iff, Except.ok.injEq]
      apply eq_comm
  | cons argument rest ih =>
      rw [bindFrom, BoundTo, List.forall₂_cons_left_iff]
      cases hbind : argument.bind? with
      | none =>
          constructor
          · intro h
            cases h
          · rintro ⟨_, _, h, -⟩
            cases h
      | some parameter =>
          simp only [bind_eq_ok_iff, pure_eq_ok_iff, ih, Option.some.injEq, exists_and_left,
            exists_eq_left']
          apply exists_congr
          intro others
          rw [BoundTo, eq_comm]

/-- Arguments are bound in one way. -/
theorem BoundTo.unique
    {arguments : List Argument} {parameters others : List Parameter}
    (h : BoundTo arguments parameters) (hothers : BoundTo arguments others) :
  parameters = others
  := by
  have hbind : bindFrom 1 arguments = .ok parameters := bindFrom_eq_ok_iff.mpr h
  rw [bindFrom_eq_ok_iff.mpr hothers] at hbind
  apply (Except.ok.inj hbind).symm

/-- The error of binding is about the first argument that does not suit its column. -/
theorem firstMisfit_of_bindFrom
    {number : Nat} {arguments : List Argument} {e : BindingError}
    (h : bindFrom number arguments = .error e) :
  ∃ index, FirstMisfit arguments index e.argument ∧ e.number = number + index
  := by
  induction arguments generalizing number with
  | nil => cases h
  | cons argument rest ih =>
      rw [bindFrom] at h
      cases hbind : argument.bind? with
      | none =>
          rw [hbind] at h
          cases h
          use 0, firstMisfit_cons_of_misfit hbind rest
          rfl
      | some parameter =>
          simp only [hbind, bind_eq_error_iff] at h
          obtain h | ⟨_, _, h⟩ := h
          · obtain ⟨index, hmisfit, hnumber⟩ := ih h
            use index + 1, hmisfit.cons hbind
            omega
          · cases h

end TableGateway.Argument
