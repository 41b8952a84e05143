import SchemaMigration.Run.Call
import SchemaMigration.Sqlite.Executor

/-!
# Sessions on a local database

`tryLock`, `unlock`, `forceUnlock` : the lock, which is the one row of its table.
`Executor.answer`                  : how a state answers the calls of a run.
`target`                           : how a database answers the calls of a run.
-/

namespace SchemaMigration.Sqlite

set_option autoImplicit false

open Sql (Database Row Draft cell)
open Time (Instant)

/-! ## The lock -/

def isLockRow (row : Row) : Bool := cell row 0 == .integer 1

def isLockRowOf (holder : String) (row : Row) : Bool := isLockRow row && cell row 1 == .text holder

def lockRow (holder : String) (now : Instant) : Row := [.integer 1, .text holder, .text now.stored]

/-- Who has the lock, by its row. -/
def readHolder (db : Database) : Except Fault (Option String) :=
  match (db.table? lockTable.name).bind fun t => t.rows.find? isLockRow with
  | none => .ok none
  | some row =>
    match cell row 1 with
    | .text other => .ok (some other)
    | v => .error (.database ("failed to read lock holder: " ++ notTextReason v 0 "holder"))

/-- Adds the row of the lock unless it conflicts with another, and asks for the holder then. It is tried again if there is
none. `attempts` bounds how often: a table of the lock that another hand has made may refuse the row for ever. -/
def tryLock (holder : String) (now : Instant) : Nat → Database → Except Fault LockOutcome × Database
  | 0, db => (.error (.database "failed to acquire lock"), db)
  | attempts + 1, db =>
    match db.execute (Draft.insert true (insertionInto lockTable (lockRow holder now))) with
    | .error r =>
      let text := "INSERT OR IGNORE INTO _migrun_lock (id, holder, acquired_at) VALUES (1, ?1, ?2)"
      (.error (.database ("failed to acquire lock: " ++ r.message text)), db)
    | .ok (changed, db) =>
      if changed == 1 then (.ok .acquired, db)
      else
        match readHolder db with
        | .error f => (.error f, db)
        | .ok (some other) => (.ok (.heldBy other), db)
        | .ok none => tryLock holder now attempts db

/-- How many rows of the lock that satisfy `p` were removed, and the database without them. -/
def removeLock (p : Row → Bool) (failure text : String) (db : Database) : Except Fault Nat × Database :=
  match db.execute (Draft.delete (nameOf lockTable) p) with
  | .error r => (.error (.database (failure ++ r.message text)), db)
  | .ok (removed, db) => (.ok removed, db)

/-- The database after the holder gave the lock back; others cannot. -/
def unlock (holder : String) (db : Database) : Except Fault Unit × Database :=
  let (removed, db) := removeLock (isLockRowOf holder) "failed to release lock: "
    "DELETE FROM _migrun_lock WHERE id = 1 AND holder = ?1" db
  (removed.map fun _ => (), db)

def forceUnlock (db : Database) : Except Fault Bool × Database :=
  if (db.spelled? lockTable.name).isNone then (.ok false, db)
  else
    let (removed, db) := removeLock isLockRow "failed to clear lock: " "DELETE FROM _migrun_lock WHERE id = 1" db
    (removed.map fun n => 0 < n, db)

/-! ## The calls of a run -/

/-- How a call that changes nothing but the database of a state changes the state. -/
def Executor.within {σ α : Type} (e : Executor σ) (f : Database → Except Fault α × Database) (x : σ) :
    Except Fault α × σ :=
  let (a, db) := f (e.database x)
  (a, e.replace db x)

/-- How a state that is there and open answers the calls of a run. -/
def Executor.answer {σ : Type} (e : Executor σ) (now : Instant) : Run.Engine σ
  | .databaseExists, x => (.ok true, x)
  | .createDatabase, x => (.ok (), x)
  | .connect, x => (.ok (), x)
  | .ensureBookkeeping, x => e.within ensureBookkeeping x
  | .appliedRecords, x => (readRecords (e.database x), x)
  | .tryLock holder, x => e.within (tryLock holder now 100) x
  | .unlock holder, x => e.within (unlock holder) x
  | .forceUnlock, x => e.within forceUnlock x
  | .apply m statements user, x => e.apply m statements user now x

/-- How a database that is there and open answers the calls of a run. -/
def target : Instant → Run.Engine Database := Executor.plain.answer

end SchemaMigration.Sqlite
