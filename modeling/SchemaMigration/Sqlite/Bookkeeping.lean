import SchemaMigration.Fault
import SchemaMigration.History.Record
import SchemaMigration.Sql.Execution
import SchemaMigration.Time.Printer
import SchemaMigration.Time.Reader

/-!
# Bookkeeping tables

`recordTable`, `lockTable` : the two tables, still without rows.
`ensureBookkeeping`        : a database with both.
`recordRow`, `decodeRow`   : a record as a row, and a row as a record.
`readRecords`              : the records in a database, in the order of their stored versions.
`recordInsertion`          : the statement that adds a record.

Versions are stored as signed words, so those above the greatest signed word are stored as negative numbers.
-/

namespace SchemaMigration.Sqlite

set_option autoImplicit false

open Sql (Database Table Column Row Value Insertion Refusal cell)
open Time (Instant)

/-! ## The tables -/

def textColumn (name : String) : Column := { name, type := "TEXT", notNull := true }

def recordTable : Table :=
  ⟨"_migrun_migrations", { name := "version", type := "INTEGER", key := true } ::
    ["name", "checksum", "applied_by", "applied_at"].map textColumn, []⟩

/-- The table of the lock, which has one row while the lock is held. -/
def lockTable : Table :=
  ⟨"_migrun_lock", { name := "id", type := "INTEGER", key := true, only := some 1 } ::
    ["holder", "acquired_at"].map textColumn, []⟩

/-- A table of the bookkeeping as statements name it. -/
def nameOf (t : Table) : Sql.Name := ⟨t.name, t.name, 0⟩

/-- The database with both tables; a table that is there stays as it is. -/
def ensureBookkeeping (db : Database) : Except Fault Unit × Database :=
  let fault (r : Refusal) : Fault := .database ("failed to create bookkeeping tables: " ++ r.message "")
  match db.createTable true (nameOf recordTable) recordTable.columns with
  | .error r => (.error (fault r), db)
  | .ok db =>
    match db.createTable true (nameOf lockTable) lockTable.columns with
    | .error r => (.error (fault r), db)
    | .ok db => (.ok (), db)

/-! ## Versions -/

def storedVersion (v : Version) : Int64 := v.toInt64

def versionOfStored (n : Int64) : Version := n.toUInt64

/-! ## Records and rows -/

def kindName : Value → String
  | .null => "Null"
  | .integer _ => "Integer"
  | .real _ => "Real"
  | .text _ | .illFormed _ => "Text"
  | .blob _ => "Blob"

/-- Why a value of another kind, or an ill-formed text, cannot be read as a text. -/
def notTextReason (v : Value) (i : Nat) (column : String) : String :=
  match v with
  | .illFormed t => "Conversion error from type " ++ kindName v ++ s!" at index: {i}, " ++ t.flaw.message
  | v => "Invalid column type " ++ kindName v ++ s!" at index: {i}, name: " ++ column

def textCell (row : Row) (i : Nat) (column : String) : Except Fault String :=
  match cell row i with
  | .text s => .ok s
  | v => .error (.database ("failed to read migration row: " ++ notTextReason v i column))

def versionCell (row : Row) : Int64 :=
  match cell row 0 with
  | .integer n => n
  | _ => 0

/-- The time that a stored text spells: in the strict form, or in the plain form that people write by hand. -/
def readTime? (s : String) : Option Instant := Instant.ofRfc3339? s.toList <|> Instant.ofPlain? s.toList

def decodeRow (row : Row) : Except Fault Record := do
  let name ← textCell row 1 "name"
  let checksum ← textCell row 2 "checksum"
  let appliedBy ← textCell row 3 "applied_by"
  let time ← textCell row 4 "applied_at"
  match readTime? time with
  | some appliedAt => return { version := versionOfStored (versionCell row), name, checksum, appliedBy, appliedAt }
  | none => throw (.database s!"migration {versionCell row} has a corrupt applied_at: not a time")

def recordRow (r : Record) : Row :=
  [.integer (storedVersion r.version), .text r.name, .text r.checksum, .text r.appliedBy, .text r.appliedAt.stored]

def sortRows (rows : List Row) : List Row := rows.mergeSort fun a b => versionCell a ≤ versionCell b

/-- The records in a database, none if it has no table of them. -/
def readRecords (db : Database) : Except Fault (List Record) :=
  match db.spelled? recordTable.name with
  | none => .ok []
  | some t => (sortRows t.rows).mapM decodeRow

/-! ## One more record -/

/-- The insertion of one row into a table, by the names of its columns. -/
def insertionInto (t : Table) (row : Row) : Insertion :=
  ⟨nameOf t, some (t.columns.map (·.name)), [row.map Sql.Term.literal]⟩

def recordInsertion (r : Record) : Insertion := insertionInto recordTable (recordRow r)

/-- The text of the insertion, with parameters in the place of the values. -/
def recordText : String :=
  "INSERT INTO _migrun_migrations (version, name, checksum, applied_by, applied_at)\n" ++
    "                 VALUES (?1, ?2, ?3, ?4, ?5)"

end SchemaMigration.Sqlite
