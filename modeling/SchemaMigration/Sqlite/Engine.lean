import SchemaMigration.Files
import SchemaMigration.Settings.Basic
import SchemaMigration.Sqlite.Content
import SchemaMigration.Sqlite.Target

/-!
# Local databases in files

`Connection.databaseFile`   : the file of a database in the data directory that the host names.
`engine`                    : how the files answer the calls of a run.

A file without bytes is a database without tables. Any other file that is no database can be opened, but nothing can be
read from it.
-/

namespace SchemaMigration

set_option autoImplicit false

/-- The file of a database: its name must not lead out of the data directory. -/
def Connection.databaseFile (c : Connection) : Except Fault String :=
  let n := c.database
  if n == "" || n == "." || n == ".." || n.toList.any fun x => x == '/' || x == '\\' then
    .error (.config ("invalid database name `" ++ n ++ "`"))
  else .ok (joinPath c.host (n ++ ".db"))

namespace Sqlite

open Sql (Database)
open Time (Instant)

/-! ## Files as databases -/

def notDatabase : String := "file is not a database"

/-- How a file that is no database answers the calls of a run. -/
def unreadable : (c : Call) → Except Fault c.Answer
  | .databaseExists => .ok true
  | .createDatabase => .error (.database ("failed to initialise database: " ++ notDatabase))
  | .connect => .ok ()
  | .ensureBookkeeping => .error (.database ("failed to create bookkeeping tables: " ++ notDatabase))
  | .appliedRecords => .error (.database ("failed to inspect schema: " ++ notDatabase))
  | .tryLock _ => .error (.database ("failed to acquire lock: " ++ notDatabase))
  | .unlock _ => .error (.database ("failed to release lock: " ++ notDatabase))
  | .forceUnlock => .error (.database ("failed to inspect schema: " ++ notDatabase))
  | .apply m statements _ =>
    .error (.migrationFailed m.version m.name
      (if statements.isEmpty then "failed to record migration: " ++ notDatabase else notDatabase))

/-- How a file answers the calls of a run, and what it holds afterwards. -/
def Content.answer (now : Instant) (call : Call) (x : Content) : Except Fault call.Answer × Content :=
  match x.database? with
  | none => (unreadable call, x)
  | some db =>
    let (a, db) := target now call db
    (a, .database db)

/-! ## The calls of a run -/

/-- The file of the database, once the data directory is known to be there. -/
def fileIn (here : FilePath) (c : Connection) (fs : Files Content) : Except Fault String :=
  if fs.isFolder here c.host then c.databaseFile
  else .error (.connection ("data directory " ++ c.host ++ " does not exist"))

def databaseExists (here : FilePath) (c : Connection) (fs : Files Content) : Except Fault Bool := do
  let path ← fileIn here c fs
  return fs.isFile here path

def connect (here : FilePath) (c : Connection) (fs : Files Content) : Except Fault Unit := do
  unless ← databaseExists here c fs do throw (.databaseMissing c.database)

def createDatabase (here : FilePath) (c : Connection) (fs : Files Content) : Except Fault (Files Content) := do
  let path ← fileIn here c fs
  let cannotOpen : Fault := .connection ("failed to create database: unable to open database file: " ++ path)
  match fs.resolve here path with
  | .error _ => throw cannotOpen
  | .ok p =>
    match fs.node? p with
    | none => return fs.put p (.file (.database .empty))
    | some (.file x) =>
      match x.database? with
      | some db => return fs.put p (.file (.database db))
      | none => throw (.database ("failed to initialise database: " ++ notDatabase))
    | some _ => throw cannotOpen

def callFile (here : FilePath) (c : Connection) (now : Instant) (call : Call) (fs : Files Content) :
    Except Fault call.Answer × Files Content :=
  match c.databaseFile with
  | .error f => (.error f, fs)
  | .ok path =>
    match fs.resolve here path with
    | .error _ => (.error (.databaseMissing c.database), fs)
    | .ok p =>
      match fs.node? p with
      | some (.file x) =>
        let (a, x) := x.answer now call
        (a, fs.put p (.file x))
      | _ => (.error (.databaseMissing c.database), fs)

def engine (here : FilePath) (c : Connection) (now : Instant) : Run.Engine (Files Content) := fun call fs =>
  match call with
  | .databaseExists => (databaseExists here c fs, fs)
  | .createDatabase =>
    match createDatabase here c fs with
    | .ok fs => (.ok (), fs)
    | .error f => (.error f, fs)
  | .connect => (connect here c fs, fs)
  | call => callFile here c now call fs

end Sqlite

end SchemaMigration
