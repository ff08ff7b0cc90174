import TableGateway.Number.Integer
import TableGateway.Settings.Environment
import TableGateway.Text.Blank
import TableGateway.Text.Visible

/-!
# Settings

The settings of the service are read from variables of its environment. Only the URL of the database has
no default. It may hold a password, so the description of the settings leaves it out.
-/

namespace TableGateway

/-- The settings of the service. Without a catalog file the catalog is read from the database. -/
structure Settings where
  port : UInt16
  databaseUrl : String
  databaseSchema : String
  maxConnections : Nat
  catalogFile : Option String
  deriving DecidableEq

/-- The cause for which there are no settings. -/
inductive SettingsError where
  | invalidPort
  | noDatabaseUrl
  | invalidMaxConnections
  deriving DecidableEq

/-- The text that describes an error. -/
def SettingsError.message : SettingsError → String
  | invalidPort => "TBL_BRIDGE_PORT must be a port number"
  | noDatabaseUrl => "DATABASE_URL must be set"
  | invalidMaxConnections => "TBL_DB_MAX_CONNECTIONS must be a positive integer"

namespace Settings

/-- The port that a text writes, or that of a service without the variable. -/
def port? (text : Option String) : Except SettingsError UInt16 :=
  match text with
  | none => .ok 3000
  | some text =>
    match Number.unsignedBelow? (2 ^ 16) text.toList with
    | some port => .ok (UInt16.ofNat port)
    | none => .error .invalidPort

/-- The number of connections that a text writes between blanks, or that of a service without the
variable. -/
def maxConnections? (text : Option String) : Except SettingsError Nat :=
  match text with
  | none => .ok 5
  | some text =>
    match Number.unsignedBelow? (2 ^ 32) (Text.trim text.toList) with
    | some (n + 1) => .ok (n + 1)
    | _ => .error .invalidMaxConnections

/-- The name of the catalog file; a blank one is none. -/
def catalogFile? (text : Option String) : Option String :=
  text.filter fun text => !(Text.trim text.toList).isEmpty

/-- The settings that an environment gives. The variables are checked in the order of the settings. -/
def ofEnvironment (environment : Environment) : Except SettingsError Settings := do
  let port ← port? (environment.get? "TBL_BRIDGE_PORT")
  let some databaseUrl := environment.get? "DATABASE_URL" | throw .noDatabaseUrl
  let maxConnections ← maxConnections? (environment.get? "TBL_DB_MAX_CONNECTIONS")
  return {
    port
    databaseUrl
    databaseSchema := (environment.get? "TBL_DB_SCHEMA").getD "public"
    maxConnections
    catalogFile := catalogFile? (environment.get? "TBL_CATALOG_FILE") }

/-- The text of the path of a file that may be missing. -/
def pathText : Option String → String
  | none => "None"
  | some path => "Some(" ++ Text.visiblePath path ++ ")"

/-- The description of settings, without the URL of the database. -/
def description (settings : Settings) : String :=
  "Config \x7b port: " ++ Number.natText settings.port.toNat ++
    ", database_url: \"<redacted>\", db_schema: " ++ Text.visible settings.databaseSchema ++
    ", db_max_connections: " ++ Number.natText settings.maxConnections ++
    ", catalog_file: " ++ pathText settings.catalogFile ++ " \x7d"

end Settings

end TableGateway
