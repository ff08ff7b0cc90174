import TableGateway.Text.Cut

/-!
# Command lines

The tool has two commands. `explain` shows the statement that a request asks for, and `catalog` checks a
catalog file and lists its tables. An option is written `--name value` or `--name=value`, and not twice
for one command; in the first form a value may not start with a hyphen. After `--` there are no options.
-/

namespace TableGateway.CommandLine

/-- The forms of output. -/
inductive OutputFormat where
  | text
  | json
  deriving DecidableEq

/-- The format with a given name. -/
def OutputFormat.ofName? : String → Option OutputFormat
  | "text" => some text
  | "json" => some json
  | _ => none

/-- The methods of requests that can be explained. -/
inductive Method where
  | get
  | post
  | patch
  | put
  | delete
  deriving DecidableEq

/-- The method with a given name, in small letters. -/
def Method.ofName? : String → Option Method
  | "get" => some get
  | "post" => some post
  | "patch" => some patch
  | "put" => some put
  | "delete" => some delete
  | _ => none

/-- A command with its arguments. -/
inductive Command where
  | explain (catalogFile : String) (method : Method) (body : Option String) (path : String)
  | catalog (catalogFile : String)
  deriving DecidableEq

/-- What a command line asks for. -/
structure Invocation where
  format : OutputFormat
  command : Command
  deriving DecidableEq

/-- The subjects of help. -/
inductive Topic where
  | overview
  | explain
  | catalog
  deriving DecidableEq

/-- The reason for which a command line asks for no command: it is wrong, or it asks for a description or
for the version of the tool. -/
inductive Stop where
  | wrong
  | help (topic : Topic)
  | version
  deriving DecidableEq

/-! ### Options -/

/-- An option, by its name and the values that it takes. -/
structure OptionRule where
  name : String
  accepts : String → Bool

/-- The options that may stand in one part of a command line, and what else may. -/
structure Rules where
  topic : Topic
  options : List OptionRule
  hasVersion : Bool
  hasPath : Bool

/-- The format of the output. -/
def formatRule : OptionRule :=
  ⟨"format", fun value => (OutputFormat.ofName? value).isSome⟩

/-- The catalog file. -/
def catalogRule : OptionRule :=
  ⟨"catalog", fun value => !value.isEmpty⟩

/-- The rules before the name of the command. -/
def overviewRules : Rules :=
  ⟨.overview, [formatRule], true, false⟩

/-- The rules after `explain`. -/
def explainRules : Rules :=
  ⟨.explain, [formatRule, catalogRule,
    ⟨"method", fun value => (Method.ofName? value).isSome⟩, ⟨"body", fun _ => true⟩], false, true⟩

/-- The rules after `catalog`. -/
def catalogRules : Rules :=
  ⟨.catalog, [formatRule, catalogRule], false, false⟩

/-- What has been read of one part of a command line. The last option may still lack its value, and is
checked once the next argument has begun. -/
structure Reading where
  values : List (String × String)
  pending : Option (OptionRule × Option String)
  path : Option String

namespace Reading

/-- Nothing has been read. -/
def start : Reading :=
  ⟨[], none, none⟩

/-- The reading with a value for an option. -/
def give (reading : Reading) (rule : OptionRule) (value : String) : Except Stop Reading :=
  if rule.accepts value && (reading.values.lookup rule.name).isNone then
    .ok { reading with values := (rule.name, value) :: reading.values }
  else .error .wrong

/-- The reading with the last option checked. -/
def settle (reading : Reading) : Except Stop Reading :=
  match reading.pending with
  | none => .ok reading
  | some (_, none) => .error .wrong
  | some (rule, some value) => { reading with pending := none }.give rule value

/-- A flag, after which there is no command. -/
def stop (reading : Reading) (flag : Stop) : Except Stop Reading := do
  let _ ← reading.settle
  throw flag

/-- An option by its name, with its value if that follows an equality sign. -/
def takeLong (rules : Rules) (reading : Reading) (name : String) (value : Option String) :
    Except Stop Reading :=
  match rules.options.find? (·.name = name), value with
  | some rule, some value => do (← reading.settle).give rule value
  | some rule, none => do return { ← reading.settle with pending := some (rule, none) }
  | none, some _ => .error .wrong
  | none, none =>
    if name = "help" then reading.stop (.help rules.topic)
    else if name = "version" ∧ rules.hasVersion then reading.stop .version
    else .error .wrong

/-- Flags of one letter, of which the first counts. -/
def takeShort (rules : Rules) (reading : Reading) (flags : List Char) : Except Stop Reading :=
  if flags.head? = some 'h' then reading.stop (.help rules.topic)
  else if flags.head? = some 'V' ∧ rules.hasVersion then reading.stop .version
  else .error .wrong

/-- An argument that starts with a hyphen, after that. -/
def takeOption (rules : Rules) (reading : Reading) (argument : List Char) : Except Stop Reading :=
  match argument with
  | '-' :: long =>
    match Text.cutAt? '=' long with
    | some (name, value) => reading.takeLong rules (String.ofList name) (String.ofList value)
    | none => reading.takeLong rules (String.ofList long) none
  | flags => reading.takeShort rules flags

/-- A path. -/
def takePath (rules : Rules) (reading : Reading) (path : String) : Except Stop Reading := do
  let reading ← reading.settle
  if rules.hasPath && reading.path.isNone then return { reading with path := some path }
  else throw .wrong

end Reading

/-- Whether an argument is an option or options; a hyphen alone is none. -/
def isOption (argument : String) : Bool :=
  argument.toList.head? == some '-' && 1 < argument.length

/-- What stands before the name of a command, and that name with what follows. -/
def readOverview (reading : Reading) : List String → Except Stop (Reading × String × List String)
  | [] => .error .wrong
  | argument :: rest =>
    if argument = "--" then .error .wrong
    else if isOption argument then do
      readOverview (← reading.takeOption overviewRules (argument.toList.drop 1)) rest
    else
      match reading.pending with
      | some (rule, none) => readOverview { reading with pending := some (rule, some argument) } rest
      | _ => .ok (reading, argument, rest)

/-- What stands after the name of a command. -/
def readCommand (rules : Rules) (reading : Reading) : List String → Except Stop Reading
  | [] => reading.settle
  | argument :: rest =>
    if argument = "--" then do (← rest.foldlM (Reading.takePath rules) reading).settle
    else if isOption argument then do
      readCommand rules (← reading.takeOption rules (argument.toList.drop 1)) rest
    else
      match reading.pending with
      | some (rule, none) =>
        readCommand rules { reading with pending := some (rule, some argument) } rest
      | _ => do readCommand rules (← reading.takePath rules argument) rest

/-! ### Commands -/

/-- A value that must be there. -/
def require {α : Type} (value : Option α) : Except Stop α :=
  match value with
  | some value => .ok value
  | none => .error .wrong

/-- What a command line asks for. The format is that given last. -/
def invocation (overview : Reading) (rules : Rules) (arguments : List String)
    (command : Reading → Except Stop Command) : Except Stop Invocation := do
  let reading ← readCommand rules .start arguments
  let command ← command reading
  let overview ← overview.settle
  let format := (reading.values.lookup "format").or (overview.values.lookup "format")
  return ⟨(format.bind OutputFormat.ofName?).getD .text, command⟩

/-- The command `explain` with its options. -/
def explainCommand (reading : Reading) : Except Stop Command := do
  let catalogFile ← require (reading.values.lookup "catalog")
  let path ← require reading.path
  let method := ((reading.values.lookup "method").bind Method.ofName?).getD .get
  return .explain catalogFile method (reading.values.lookup "body") path

/-- The command `catalog` with its options. -/
def catalogCommand (reading : Reading) : Except Stop Command := do
  return .catalog (← require (reading.values.lookup "catalog"))

/-- The subject of help that the words after `help` name. -/
def helpTopic : List String → Stop
  | [] | ["help"] => .help .overview
  | ["explain"] => .help .explain
  | ["catalog"] => .help .catalog
  | _ => .wrong

/-- What the arguments of a command line ask for. -/
def ofArguments (arguments : List String) : Except Stop Invocation := do
  let (overview, name, rest) ← readOverview .start arguments
  match name with
  | "explain" => invocation overview explainRules rest explainCommand
  | "catalog" => invocation overview catalogRules rest catalogCommand
  | "help" => throw (helpTopic rest)
  | _ => throw .wrong

end TableGateway.CommandLine
