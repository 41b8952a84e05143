import SchemaMigration.Settings.Kinds
import SchemaMigration.Text.Quoted

/-!
# Settings

`DatabaseSettings`   : which engine to use and where the database is.
`MigrationSettings`  : where the migrations are and how they are run.
`Settings`           : both.
`Connection`         : what an engine is told about its database.
-/

namespace SchemaMigration

set_option autoImplicit false

open Text (quoted labelled)

structure DatabaseSettings where
  engine : EngineKind
  host : String
  user : String
  password : String
  name : String
  cluster : Option String
  deriving DecidableEq, Repr

/-- A local database in the working directory. -/
def DatabaseSettings.standard : DatabaseSettings := ⟨.sqlite, ".", "migrun", "", "migrun", none⟩

structure MigrationSettings where
  dir : String
  createDatabase : Bool
  severalStatements : Bool
  drift : DriftPolicy
  deriving DecidableEq, Repr

/-- Files of several statements are allowed, a missing database is made, and drift is a fault. -/
def MigrationSettings.standard : MigrationSettings := ⟨"migrations", true, true, .fail⟩

structure Settings where
  database : DatabaseSettings
  migrations : MigrationSettings
  deriving DecidableEq, Repr

def Settings.standard : Settings := ⟨.standard, .standard⟩

/-- What an engine is told about its database. -/
structure Connection where
  host : String
  user : String
  password : String
  database : String
  cluster : Option String
  deriving DecidableEq, Repr

/-- What the engine is told; an empty cluster is none. -/
def DatabaseSettings.connection (s : DatabaseSettings) : Connection :=
  { host := s.host, user := s.user, password := s.password, database := s.name, cluster := s.cluster.filter (· != "") }

/-! ## For developers -/

/-- A password as it is shown: not at all, but an empty one is seen to be empty. -/
def redacted (password : String) : String := if password.isEmpty then "" else "***"

def optionalText (s : Option String) : String :=
  match s with
  | some t => "Some(" ++ quoted t ++ ")"
  | none => "None"

/-- The settings with their fields, the password hidden. -/
def DatabaseSettings.debug (s : DatabaseSettings) : String :=
  let engine := match s.engine with
    | .sqlite => "Sqlite"
    | .clickhouse => "Clickhouse"
  labelled "DatabaseSettings" [("engine", engine), ("host", quoted s.host), ("user", quoted s.user),
    ("password", quoted (redacted s.password)), ("name", quoted s.name), ("cluster", optionalText s.cluster)]

def Connection.debug (c : Connection) : String :=
  labelled "ConnectionConfig" [("host", quoted c.host), ("user", quoted c.user),
    ("password", quoted (redacted c.password)), ("database", quoted c.database), ("cluster", optionalText c.cluster)]

end SchemaMigration
