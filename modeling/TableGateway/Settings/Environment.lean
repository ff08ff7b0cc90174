/-!
# Environments

An environment gives values to named variables. A variable that is set keeps its value.
-/

namespace TableGateway

/-- The values of variables by their names; of several values the first counts. -/
structure Environment where
  bindings : List (String × String)

namespace Environment

/-- The value of a variable, if it is set. -/
def get? (environment : Environment) (name : String) : Option String :=
  environment.bindings.lookup name

/-- The environment with a variable set, unless it was already. -/
def setDefault (environment : Environment) (name value : String) : Environment :=
  match environment.get? name with
  | some _ => environment
  | none => ⟨environment.bindings ++ [(name, value)]⟩

/-- A default counts only where a variable has no value of its own. -/
theorem get?_setDefault (environment : Environment) (name value : String) :
  (environment.setDefault name value).get? name
    = some ((environment.get? name).getD value)
  := by
  cases h : environment.get? name with
  | some found => simp [setDefault, h]
  | none =>
    simp only [setDefault, h, Option.getD_none]
    simp only [get?] at h ⊢
    rw [List.lookup_append, h]
    simp

end Environment

end TableGateway
