import TableGateway.Catalog.File
import TableGateway.Catalog.Introspection
import TableGateway.Cause
import TableGateway.Database.Exchange
import TableGateway.Settings.Basic
import TableGateway.Settings.EnvFile

/-!
# Starting the service

The service reads its environment file and its settings, connects to the database, obtains its catalog,
announces its address and listens there. The first step that fails ends it.
-/

namespace TableGateway

/-- The cause for which the service does not start. -/
inductive StartupError where
  | settings (error : SettingsError)
  | noConnection
  | noCatalogFile (path : String)
  | schema (error : SchemaError)
  | noIntrospection
  | portTaken
  deriving DecidableEq

/-- The chain of causes of an error in the text of a catalog file. -/
def SchemaError.causes : SchemaError → List Cause
  | unreadable => [.text unreadable.message, .yaml]
  | e => [.text e.message]

/-- The chain of causes of an error. -/
def StartupError.causes : StartupError → List Cause
  | settings e => [.text e.message]
  | noConnection | noIntrospection => [.database]
  | noCatalogFile path => [.text ("failed to read catalog file " ++ path), .io]
  | schema e => e.causes
  | portTaken => [.io]

/-- The texts of files by their paths; a file that cannot be read has none. -/
abbrev Files := String → Option String

/-- The catalog of the service: that of the catalog file, if one is set, and that of the database
otherwise. -/
def Settings.loadCatalog (settings : Settings) (files : Files) :
    Exchange (Except StartupError Catalog) :=
  match settings.catalogFile with
  | some path =>
    .done <|
      match files path with
      | none => .error (.noCatalogFile path)
      | some text => (Catalog.ofFileText text).mapError .schema
  | none =>
    .call (ColumnDescription.call settings.databaseSchema) fun reply =>
      match Catalog.ofReply? reply with
      | some catalog => .ok catalog
      | none => .error .noIntrospection

/-- The address at which the service listens. -/
def Settings.address (settings : Settings) : String :=
  "0.0.0.0:" ++ Number.natText settings.port.toNat

/-- The machine on which the service starts: its environment and files, the databases that accept
connections, by their URLs, and the ports that are free. -/
structure Host where
  environment : Environment
  files : Files
  accepts : String → Bool
  isFree : UInt16 → Bool

/-- How far the service has come: the settings that it has, the address that it has announced, and the
error that has ended it. Without an error it listens. -/
structure Startup where
  settings : Option Settings
  announced : Option String
  error : Option StartupError

namespace Host

/-- The environment after the environment file, if there is one. -/
def fullEnvironment (host : Host) : Environment :=
  match host.files ".env" with
  | some text => EnvFile.load host.environment text
  | none => host.environment

/-- The end of the start, once there is a catalog or none. -/
def listen (host : Host) (settings : Settings) : Except StartupError Catalog → Startup
  | .error e => ⟨settings, none, e⟩
  | .ok _ =>
    ⟨settings, settings.address, if host.isFree settings.port then none else some .portTaken⟩

/-- The start of the service. -/
def start (host : Host) : Exchange Startup :=
  match Settings.ofEnvironment host.fullEnvironment with
  | .error e => .done ⟨none, none, some (.settings e)⟩
  | .ok settings =>
    if host.accepts settings.databaseUrl then
      (settings.loadCatalog host.files).map (host.listen settings)
    else .done ⟨settings, none, some .noConnection⟩

end Host

end TableGateway
