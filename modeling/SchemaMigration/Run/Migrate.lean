import SchemaMigration.Migration.Folder
import SchemaMigration.Script.Prepare
import SchemaMigration.History.Status
import SchemaMigration.Settings.Kinds
import SchemaMigration.Run.Call

/-!
# The runs

`migrate`     : brings a database up to date with a folder, under its lock.
`plan`        : what `migrate` would do; it changes nothing.
`status`      : the state of every version.
`forceUnlock` : removes a lock that a broken run left behind.
-/

namespace SchemaMigration

set_option autoImplicit false

structure RunOptions where
  database : String
  user : String
  /-- The name under which the run takes the lock. -/
  holder : String
  createDatabase : Bool
  severalStatements : Bool
  drift : DriftPolicy
  deriving DecidableEq, Repr

/-- What a run that went well did. -/
structure Report where
  applied : List Record
  /-- How many migrations had been applied before. -/
  skipped : Nat
  /-- The versions whose files were changed after they were applied. -/
  drifted : List Version
  /-- The recorded versions without a file, one for each record. -/
  missing : List Version
  deriving DecidableEq, Repr

structure Plan where
  databaseExists : Bool
  pending : List StatusEntry
  entries : List StatusEntry
  deriving DecidableEq, Repr

namespace Run

/-! ## Migrating -/

/-- Makes sure that there is a database and opens a session on it. -/
def openDatabase (o : RunOptions) : Run Unit := do
  unless ← call .databaseExists do
    unless o.createDatabase do throw (.databaseMissing o.database)
    call .createDatabase
  call .connect

/-- Takes the lock, or fails with the name of its holder. -/
def takeLock (holder : String) : Run Unit := do
  match ← call (.tryLock holder) with
  | .acquired => return ()
  | .heldBy other => throw (.locked other)

/-- Reports the records without a file and the versions that come late. -/
def noteGaps (d : Diff) : Run Unit := do
  d.missing.forM fun r => note (.missingFile r.version r.name)
  d.outOfOrder.forM fun v => note (.outOfOrder v)

def judgeDrift (policy : DriftPolicy) (drifted : List Migration) : Run Unit :=
  match drifted, policy with
  | [], _ => return ()
  | m :: _, .fail => throw (.checksumMismatch m.version m.name)
  | ms, .warn => ms.forM fun m => note (.driftIgnored m.version m.name)

/-- Applies one migration and gives its record; a fault of the database is reported as well. -/
def applyOne (o : RunOptions) (m : Migration) : Run Record := do
  let statements ← m.prepare o.severalStatements
  match ← attempt (call (.apply m statements o.user)) with
  | .ok r => return r
  | .error f =>
    note (.applyFailed m.version f)
    throw f

/-- Applies migrations in order up to the first that fails. -/
def applyAll (o : RunOptions) : List Migration → Run (List Record)
  | [] => return []
  | m :: ms => do
    let r ← applyOne o m
    let rs ← applyAll o ms
    return r :: rs

/-- The part of a run under the lock: compares files and records and applies what is pending. -/
def runPending (o : RunOptions) (folder : Folder) : Run Report := do
  let set ← MigrationSet.load folder
  let records ← call .appliedRecords
  let d := Diff.of set records
  noteGaps d
  judgeDrift o.drift d.drifted
  let applied ← applyAll o d.pending
  return { applied, skipped := d.skipped, drifted := d.drifted.map (·.version), missing := d.missing.map (·.version) }

/-- Brings the database up to date with a folder. The lock is released however the work under it ended; a fault of the
work outweighs a fault of the release, which is then only reported. -/
def migrate (o : RunOptions) (folder : Folder) : Run Report := do
  openDatabase o
  call .ensureBookkeeping
  takeLock o.holder
  let result ← attempt (runPending o folder)
  let released ← attempt (call (.unlock o.holder))
  match result, released with
  | .ok report, .ok () => return report
  | .ok _, .error f => throw f
  | .error f, .ok () => throw f
  | .error f, .error g =>
    note (.unlockFailed g)
    throw f

/-! ## Looking -/

/-- The records of the database, none if it does not exist, and whether it exists. -/
def readRecords : Run (Bool × List Record) := do
  if ← call .databaseExists then
    call .connect
    return (true, ← call .appliedRecords)
  else
    return (false, [])

def plan (folder : Folder) : Run Plan := do
  let set ← MigrationSet.load folder
  let (databaseExists, records) ← readRecords
  let entries := statusEntries set records
  return { databaseExists, pending := entries.filter (·.state == .pending), entries }

def status (folder : Folder) : Run (List StatusEntry) := do
  return (← plan folder).entries

def forceUnlock : Run Bool := do
  call .connect
  let removed ← call .forceUnlock
  if removed then note .lockRemoved
  return removed

end Run

end SchemaMigration
