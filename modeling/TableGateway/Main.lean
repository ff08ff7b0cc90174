import TableGateway.CommandLine.Help
import TableGateway.CommandLine.Run

/-!
# The command line tool

The tool prints what its arguments ask for. Its exit code is zero, one if the command has failed, and two if
the arguments are wrong.
-/

namespace TableGateway.CommandLine

/-- The text of a file, or none if it cannot be read. -/
def readFile? (path : String) : IO (Option String) := do
  try return some (← IO.FS.readFile path)
  catch _ => return none

/-- The file that a command reads. -/
def Command.file : Command → String
  | .explain catalogFile .. => catalogFile
  | .catalog catalogFile => catalogFile

/-- The report of a failure: the outermost cause, and the others below it. -/
def failureReport (causes : List Cause) : String :=
  let texts := causes.map Cause.description
  let others := texts.drop 1
  "Error: " ++ (texts.headD "") ++
    (if others.isEmpty then "" else "\n\nCaused by:\n    " ++ "\n    ".intercalate others)

/-- The exit code after an invocation, whose output has been printed. -/
def Invocation.execute (invocation : Invocation) : IO UInt32 := do
  let path := invocation.command.file
  let content ← readFile? path
  match invocation.output fun name => if name = path then content else none with
  | .ok output => do
    IO.print output
    return 0
  | .error e => do
    IO.eprintln (failureReport e.causes)
    return 1

/-- Runs the tool with its arguments, and gives its exit code. -/
def run (arguments : List String) : IO UInt32 :=
  match ofArguments arguments with
  | .ok invocation => invocation.execute
  | .error (.help topic) => do
    IO.print topic.text
    return 0
  | .error .version => do
    IO.print versionText
    return 0
  | .error .wrong => do
    IO.eprint overviewText
    return 2

end TableGateway.CommandLine

/-- The program. -/
def main (arguments : List String) : IO UInt32 :=
  TableGateway.CommandLine.run arguments
