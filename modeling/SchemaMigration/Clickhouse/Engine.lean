import SchemaMigration.Clickhouse.Address
import SchemaMigration.Clickhouse.Client
import SchemaMigration.Clickhouse.Queries
import SchemaMigration.Run.Call

/-!
# Databases on a server

`tryLock` : the lock is held by the first holder in its table; who comes second takes its row back.
`apply`   : the statements one after another, then the record.
`engine`  : how the server answers the calls of a run.

The server knows no transactions: what ran before a statement is refused stays done, but is not recorded.
-/

namespace SchemaMigration.Clickhouse

set_option autoImplicit false

open Http (Request Reply)
open Time (Instant)

/-! ## Clients -/

def serverClient (c : Connection) : Client := ⟨c.serverAddress, c.user, c.password, none⟩

def databaseClient (c : Connection) : Client := { serverClient c with database := some c.database }

def inDatabase (words : String) (e : ClientError) : Fault := .database (words ++ e.message)

/-- An exchange whose faults are told in other words. -/
def explain {α : Type} (fault : ClientError → Fault) (x : Exchange ClientError α) : Exchange Fault α :=
  ExceptT.adapt fault x

def ofExcept {α : Type} (r : Except Fault α) : Exchange Fault α := ExceptT.mk (pure r)

/-! ## The database -/

def databaseExists (c : Connection) : Exchange Fault Bool := do
  ofExcept (checkName "database" c.database)
  let unreachable (e : ClientError) : Fault :=
    .connection ("failed to reach ClickHouse at " ++ c.serverAddress ++ ": " ++ e.message)
  let n ← explain unreachable ((serverClient c).fetchOne word Query.databaseCount [textLiteral c.database])
  return 0 < n

def createDatabase (c : Connection) : Exchange Fault Unit := do
  ofExcept (checkNames c)
  explain (inDatabase "failed to create database: ")
    ((serverClient c).execute (doubleMarks (Query.createDatabase c)) [])

/-- Makes sure that a session can be opened: the database has to be there. -/
def connect (c : Connection) : Exchange Fault Unit := do
  unless ← databaseExists c do throw (.databaseMissing c.database)
  if let some cluster := c.cluster then ofExcept (checkName "cluster" cluster)

def ensureTables (c : Connection) : Exchange Fault Unit :=
  [Query.createRecordTable c, Query.createLockTable c].forM fun q =>
    explain (inDatabase "failed to create bookkeeping tables: ") ((databaseClient c).execute (doubleMarks q) [])

def tableExists (c : Connection) (table : String) : Exchange Fault Bool := do
  let n ← explain (inDatabase "failed to inspect schema: ")
    ((databaseClient c).fetchOne word Query.tableCount [textLiteral c.database, textLiteral table])
  return 0 < n

/-! ## The lock -/

/-- The holders that asked for the lock, the first first. -/
def lockHolders (c : Connection) : Exchange Fault (List String) :=
  explain (inDatabase "failed to read lock holder: ") ((databaseClient c).fetchAll text (Query.holders c) [])

def removeHolder (c : Connection) (holder : String) : Exchange Fault Unit :=
  explain (inDatabase "failed to release lock: ")
    ((databaseClient c).execute (Query.removeHolder c) [textLiteral holder])

/-- Asks for the lock. Several may ask at once, so after the row was added the first row decides. -/
def tryLock (c : Connection) (holder : String) : Exchange Fault LockOutcome := do
  match (← lockHolders c).head? with
  | some first => return if first == holder then .acquired else .heldBy first
  | none =>
    explain (inDatabase "failed to acquire lock: ")
      ((databaseClient c).execute (Query.addHolder c) [textLiteral holder])
    match (← lockHolders c).head? with
    | some first =>
      if first == holder then return .acquired
      removeHolder c holder
      return .heldBy first
    | none => throw (.database "lock row vanished right after it was written")

def forceUnlock (c : Connection) : Exchange Fault Bool := do
  unless ← tableExists c lockTable do return false
  if (← lockHolders c).isEmpty then return false
  explain (inDatabase "failed to clear lock: ") ((databaseClient c).execute (Query.clearHolders c) [])
  return true

/-! ## Records -/

/-- A record as the server writes it, with its time in milliseconds. -/
structure StoredRecord where
  version : Nat
  name : String
  checksum : String
  appliedBy : String
  milliseconds : Int
  deriving DecidableEq, Repr

def storedRecord : Field StoredRecord := fun bytes => do
  let (version, bytes) ← word bytes
  let (name, bytes) ← text bytes
  let (checksum, bytes) ← text bytes
  let (appliedBy, bytes) ← text bytes
  let (milliseconds, bytes) ← signedWord bytes
  return (⟨version, name, checksum, appliedBy, milliseconds⟩, bytes)

/-- The bytes that the five values are read from. -/
def StoredRecord.toBytes (r : StoredRecord) : List UInt8 :=
  wordBytes r.version ++ textBytes r.name ++ textBytes r.checksum ++ textBytes r.appliedBy ++
    signedWordBytes r.milliseconds

/-- The record, if its time lies in the years that are kept. -/
def StoredRecord.toRecord (r : StoredRecord) : Except Fault Record :=
  match Instant.ofMillis? r.milliseconds with
  | some appliedAt =>
    .ok { version := UInt64.ofNat r.version, name := r.name, checksum := r.checksum, appliedBy := r.appliedBy, appliedAt }
  | none => .error (.database s!"migration {r.version} has a corrupt applied_at: {r.milliseconds}")

def appliedRecords (c : Connection) : Exchange Fault (List Record) := do
  unless ← tableExists c recordTable do return []
  let rows ← explain (inDatabase "failed to query applied migrations: ")
    ((databaseClient c).fetchAll storedRecord (Query.records c) [])
  ofExcept (rows.mapM StoredRecord.toRecord)

/-- The values of a record in the order of the query that adds it. -/
def recordValues (r : Record) : List String :=
  [toString r.version, textLiteral r.name, textLiteral r.checksum, textLiteral r.appliedBy,
    toString r.appliedAt.millis]

def apply (c : Connection) (m : Migration) (statements : List String) (user : String) (now : Instant) :
    Exchange Fault Record := do
  let failed (words : String) (e : ClientError) : Fault := .migrationFailed m.version m.name (words ++ e.message)
  statements.forM fun s => explain (failed "") ((databaseClient c).execute (doubleMarks s) [])
  let r := m.record user now.truncateToMillis
  explain (failed "failed to record migration: ") ((databaseClient c).execute (Query.addRecord c) (recordValues r))
  return r

/-! ## The calls of a run -/

def exchange (c : Connection) (now : Instant) : (call : Call) → Exchange Fault call.Answer
  | .databaseExists => databaseExists c
  | .createDatabase => createDatabase c
  | .connect => connect c
  | .ensureBookkeeping => ensureTables c
  | .appliedRecords => appliedRecords c
  | .tryLock holder => tryLock c holder
  | .unlock holder => removeHolder c holder
  | .forceUnlock => forceUnlock c
  | .apply m statements user => apply c m statements user now

def engine (c : Connection) (now : Instant) : Run.RemoteEngine Request fun _ => Option Reply :=
  fun call => (exchange c now call).run

end SchemaMigration.Clickhouse
