import SchemaMigration.Settings.Basic

/-!
# Settings in documents

`Format`                : how a kind of document shows fields, texts, names and truth values.
`Settings.ofDocument?`  : the settings that a document holds.

What a document leaves out is standard, and fields of other names are ignored.
-/

namespace SchemaMigration

set_option autoImplicit false

/-- How a document of values `V` is read. -/
structure Format (V : Type) where
  /-- The values of the named fields; `none` if there are no fields there, or one of the names comes twice. -/
  fields : List String → V → Option (List (String × V))
  text : V → Option String
  /-- A text that may be left open. -/
  optionalText : V → Option (Option String)
  /-- A name out of a fixed list. -/
  choice : V → Option String
  truth : V → Option Bool

namespace Format

variable {V : Type} (f : Format V)

/-- The field of that name, or the standard value where it is left out. -/
def field {α : Type} (fields : List (String × V)) (name : String) (read : V → Option α) (standard : α) : Option α :=
  match fields.lookup name with
  | some v => read v
  | none => some standard

def database (v : V) : Option DatabaseSettings := do
  let s := DatabaseSettings.standard
  let fields ← f.fields ["engine", "host", "user", "password", "name", "cluster"] v
  return {
    engine := ← field fields "engine" (fun v => f.choice v >>= EngineKind.ofName?) s.engine
    host := ← field fields "host" f.text s.host
    user := ← field fields "user" f.text s.user
    password := ← field fields "password" f.text s.password
    name := ← field fields "name" f.text s.name
    cluster := ← field fields "cluster" f.optionalText s.cluster }

def migrations (v : V) : Option MigrationSettings := do
  let s := MigrationSettings.standard
  let fields ← f.fields ["dir", "create_database", "multi_statement", "drift"] v
  return {
    dir := ← field fields "dir" f.text s.dir
    createDatabase := ← field fields "create_database" f.truth s.createDatabase
    severalStatements := ← field fields "multi_statement" f.truth s.severalStatements
    drift := ← field fields "drift" (fun v => f.choice v >>= DriftPolicy.ofName?) s.drift }

end Format

def Settings.ofDocument? {V : Type} (f : Format V) (v : V) : Option Settings := do
  let s := Settings.standard
  let fields ← f.fields ["database", "migrations"] v
  return {
    database := ← Format.field fields "database" f.database s.database
    migrations := ← Format.field fields "migrations" f.migrations s.migrations }

end SchemaMigration
