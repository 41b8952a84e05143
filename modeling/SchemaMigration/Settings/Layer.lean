import SchemaMigration.Fault
import SchemaMigration.Settings.Basic

/-!
# Layers of settings

`Layer`                : values that take precedence over those below; what a layer leaves out is kept.
`Settings.overlay`     : the settings with a layer on top.
`Settings.overlayEnvironment` : what environment variables make of the settings, and whether they could all be read.
-/

namespace SchemaMigration

set_option autoImplicit false

/-- Values that take precedence over the settings below. -/
structure Layer where
  engine : Option EngineKind
  host : Option String
  user : Option String
  password : Option String
  name : Option String
  cluster : Option String
  migrationsDir : Option String
  deriving DecidableEq, Repr

def Layer.empty : Layer := ⟨none, none, none, none, none, none, none⟩

def Settings.overlay (s : Settings) (l : Layer) : Settings :=
  { database :=
      { engine := l.engine.getD s.database.engine
        host := l.host.getD s.database.host
        user := l.user.getD s.database.user
        password := l.password.getD s.database.password
        name := l.name.getD s.database.name
        cluster := l.cluster <|> s.database.cluster }
    migrations := { s.migrations with dir := l.migrationsDir.getD s.migrations.dir } }

/-! ## The environment -/

abbrev Environment := String → Option String

def engineVariable : String := "MIGRUN_DB_ENGINE"

/-- The value of a variable that is set and not empty. -/
def Environment.value? (env : Environment) (name : String) : Option String := (env name).filter (· != "")

def readEngine (text : String) : Except Fault EngineKind :=
  match EngineKind.read text with
  | .ok k => .ok k
  | .error e => .error (.config (engineVariable ++ ": " ++ e))

/-- A change of settings in place: what was changed before a fault stays changed. -/
abbrev SettingsChange := ExceptT Fault (StateM Settings)

/-- Puts the values of the variables in whose values are texts. -/
def Environment.imposeTexts (env : Environment) : StateM Settings Unit := do
  modify fun s => { s with database.host := (env.value? "MIGRUN_DB_HOST").getD s.database.host }
  modify fun s => { s with database.user := (env.value? "MIGRUN_DB_USER").getD s.database.user }
  modify fun s => { s with database.password := (env.value? "MIGRUN_DB_PASSWORD").getD s.database.password }
  modify fun s => { s with database.name := (env.value? "MIGRUN_DB_NAME").getD s.database.name }
  modify fun s => { s with database.cluster := env.value? "MIGRUN_DB_CLUSTER" <|> s.database.cluster }
  modify fun s => { s with migrations.dir := (env.value? "MIGRUN_MIGRATIONS_DIR").getD s.migrations.dir }

/-- Puts the values of environment variables in, one after another. Empty ones count as unset. -/
def Environment.impose (env : Environment) : SettingsChange Unit := do
  if let some text := env.value? engineVariable then
    let engine ← readEngine text
    modify fun s => { s with database.engine := engine }
  env.imposeTexts

def Settings.overlayEnvironment (s : Settings) (env : Environment) : Except Fault Unit × Settings := env.impose.run s

end SchemaMigration
