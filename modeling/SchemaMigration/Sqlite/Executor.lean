import SchemaMigration.Sqlite.Bookkeeping

/-!
# Migrations in transactions

`Executor`       : how scripts are run on states of a database, and how a record is added to one.
`Executor.apply` : a migration with its record, in one transaction.
`Executor.plain` : the executor of databases that are no more than their tables, indexes and triggers.

A migration can be in any dialect of SQL. All that is said of the dialect is what an executor does in a transaction.
-/

namespace SchemaMigration.Sqlite

set_option autoImplicit false

open Sql (Database Transaction Session Refusal)
open Time (Instant)

/-- How SQL is run on states of a database. A state may have more to it than the tables, indexes and triggers of
`database`, which `replace` exchanges. -/
structure Executor (σ : Type) where
  /-- The tables, indexes and triggers of a state. Whatever else restricts the rows of a table, such as a unique index,
  counts among what its columns demand. -/
  database : σ → Database
  replace : Database → σ → σ
  /-- The transaction after a script, which may be refused half-way. -/
  run : String → Transaction σ → Transaction σ × Except String Unit
  /-- The transaction after the insertion of a record. -/
  addRecord : Record → Transaction σ → Transaction σ × Except Refusal Unit

namespace Executor

variable {σ : Type} (e : Executor σ)

/-- The transaction after the scripts, run up to the first that is refused. -/
def runScripts : List String → Transaction σ → Transaction σ × Except String Unit
  | [], s => (s, .ok ())
  | script :: scripts, s =>
    match e.run script s with
    | (s, .ok ()) => runScripts scripts s
    | (s, .error reason) => (s, .error reason)

/-- The transaction after the record was added, and after it was ended. -/
def finish (r : Record) (s : Transaction σ) : Transaction σ × Except String Unit :=
  match e.addRecord r s with
  | (s, .error refusal) => (s, .error ("failed to record migration: " ++ refusal.message recordText))
  | (s, .ok ()) =>
    match s.commit? with
    | .error refusal => (s, .error ("failed to commit: " ++ refusal.message ""))
    | .ok s => (s, .ok ())

/-- Runs the statements and adds the record in one transaction. If anything is refused, the transaction that is then open
is taken back; statements that end the transaction themselves escape this. -/
def apply (m : Migration) (statements : List String) (user : String) (now : Instant) (x : σ) :
    Except Fault Record × σ :=
  let r := m.record user now
  let ended := match e.runScripts statements (.start x) with
    | (s, .ok ()) => e.finish r s
    | (s, .error reason) => (s, .error reason)
  match ended with
  | (s, .ok ()) => (.ok r, s.abandon)
  | (s, .error reason) => (.error (.migrationFailed m.version m.name reason), s.abandon)

/-- The session after a change; a change that is refused leaves it as it was. -/
def changed (s : Session) (f : Sql.Draft → Except Refusal Sql.Draft) : Session × Except Refusal Unit :=
  match s.change f with
  | .error refusal => (s, .error refusal)
  | .ok s => (s, .ok ())

/-- The executor of databases that are no more than their tables, indexes and triggers. -/
def plain : Executor Database where
  database := id
  replace db _ := db
  run := Session.runScript
  addRecord r s := changed s (Sql.Draft.insert false (recordInsertion r))

end Executor

end SchemaMigration.Sqlite
