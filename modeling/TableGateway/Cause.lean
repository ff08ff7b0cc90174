/-!
# Causes

A failure is reported as a chain of causes, the outermost first. A cause is described by a text, or lies in
a component whose own description is left open; a word between angle brackets stands for that.
-/

namespace TableGateway

/-- A cause of a failure. -/
inductive Cause where
  | text (text : String)
  | json
  | yaml
  | io
  | database
  deriving DecidableEq

/-- The description of a cause. -/
def Cause.description : Cause → String
  | text s => s
  | json => "<json>"
  | yaml => "<yaml>"
  | io => "<io>"
  | database => "<database>"

end TableGateway
