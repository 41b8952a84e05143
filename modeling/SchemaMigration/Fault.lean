import SchemaMigration.Text.Quoted

/-!
# What can go wrong

`Fault`         : every cause for which a run, a plan or a set of files is refused.
`Fault.message` : the sentence shown to the user.
`Fault.cause`   : the cause below it, which only a failed read or write has.
`Fault.debug`   : the fault with its fields, as it is shown to a developer.
-/

namespace SchemaMigration

set_option autoImplicit false

open Text (quoted labelled)

abbrev Version := UInt64

inductive IoKind
  | notFound
  | permissionDenied
  | invalidData
  | other
  deriving DecidableEq, Repr

def IoKind.name : IoKind → String
  | notFound => "NotFound"
  | permissionDenied => "PermissionDenied"
  | invalidData => "InvalidData"
  | other => "Other"

/-- Why a run, a plan or a set of files is refused. -/
inductive Fault
  | config (text : String)
  | connection (text : String)
  | databaseMissing (database : String)
  | database (text : String)
  | migrationsDirMissing (path : String)
  | invalidMigrationName (file : String)
  | duplicateVersion (version : Version) (first second : String)
  | malformedStatement (file reason : String)
  | multipleStatements (file : String) (count : Nat)
  | migrationFailed (version : Version) (name reason : String)
  | checksumMismatch (version : Version) (name : String)
  | locked (holder : String)
  | io (kind : IoKind) (text : String)
  | serialization (text : String)
  deriving DecidableEq, Repr

namespace Fault

def kind : Fault → String
  | config _ => "Config"
  | connection _ => "Connection"
  | databaseMissing _ => "DatabaseMissing"
  | database _ => "Database"
  | migrationsDirMissing _ => "MigrationsDirMissing"
  | invalidMigrationName _ => "InvalidMigrationName"
  | duplicateVersion .. => "DuplicateVersion"
  | malformedStatement .. => "MalformedStatement"
  | multipleStatements .. => "MultipleStatements"
  | migrationFailed .. => "MigrationFailed"
  | checksumMismatch .. => "ChecksumMismatch"
  | locked _ => "Locked"
  | io .. => "Io"
  | serialization _ => "Serialization"

def message : Fault → String
  | config t => "configuration error: " ++ t
  | connection t => "connection error: " ++ t
  | databaseMissing d => "database `" ++ d ++ "` does not exist and creation was not requested"
  | database t => "database error: " ++ t
  | migrationsDirMissing p => "migrations directory not found: " ++ p
  | invalidMigrationName f => "invalid migration file name `" ++ f ++ "`: expected a numeric version prefix"
  | duplicateVersion v a b => s!"duplicate migration version {v}: `" ++ a ++ "` and `" ++ b ++ "`"
  | malformedStatement f r => "malformed statement in `" ++ f ++ "`: " ++ r
  | multipleStatements f n => "`" ++ f ++ s!"` contains {n} statements but multi-statement mode is off"
  | migrationFailed v n r => s!"migration {v} (" ++ n ++ ") failed: " ++ r
  | checksumMismatch v n => s!"migration {v} (" ++ n ++ ") was changed after it was applied"
  | locked h => "migrations are locked by another run (holder " ++ h ++ ")"
  | io _ t => "io error: " ++ t
  | serialization t => "serialization error: " ++ t

/-- The text of the cause below the fault. -/
def cause : Fault → Option String
  | io _ t => some t
  | _ => none

def chain (f : Fault) : List String := f.message :: f.cause.toList

/-- The fault with its fields, as it is shown to a developer. -/
def debug (f : Fault) : String :=
  match f with
  | config t | connection t | databaseMissing t | database t | migrationsDirMissing t | invalidMigrationName t
  | locked t | serialization t => f.kind ++ "(" ++ quoted t ++ ")"
  | duplicateVersion v a b => labelled f.kind [("version", toString v), ("first", quoted a), ("second", quoted b)]
  | malformedStatement a r => labelled f.kind [("file", quoted a), ("reason", quoted r)]
  | multipleStatements a n => labelled f.kind [("file", quoted a), ("count", toString n)]
  | migrationFailed v n r => labelled f.kind [("version", toString v), ("name", quoted n), ("reason", quoted r)]
  | checksumMismatch v n => labelled f.kind [("version", toString v), ("name", quoted n)]
  | io k t => f.kind ++ "(" ++ labelled "Custom" [("kind", k.name), ("error", quoted t)] ++ ")"

end Fault

end SchemaMigration
