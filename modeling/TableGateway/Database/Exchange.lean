import TableGateway.Database.ResultSet

/-!
# Exchanges with the database

An exchange is a task that finishes on its own or hands one call to the database and finishes with the
reply. Whatever the database replies, it receives no other call.
-/

namespace TableGateway

/-- A task with at most one call to the database. -/
inductive Exchange (α : Type) where
  | done (result : α)
  | call (call : Call) (finish : Reply → α)

namespace Exchange

variable {α β : Type}

/-- The result of a task with a given database. -/
def run (database : Call → Reply) : Exchange α → α
  | done result => result
  | call c finish => finish (database c)

/-- The calls that the database receives. -/
def calls : Exchange α → List Call
  | done _ => []
  | call c _ => [c]

/-- The task with its result changed. -/
def map (f : α → β) : Exchange α → Exchange β
  | done result => done (f result)
  | call c finish => call c fun reply => f (finish reply)

/-- What is made of the result of a task does not change what the database receives. -/
theorem calls_map (f : α → β) (task : Exchange α) :
  (task.map f).calls = task.calls
  := by
  cases task <;> rfl

/-- The result of a changed task is the changed result, whatever the database replies. -/
theorem run_map (f : α → β) (database : Call → Reply) (task : Exchange α) :
  (task.map f).run database = f (task.run database)
  := by
  cases task <;> rfl

end Exchange

end TableGateway
