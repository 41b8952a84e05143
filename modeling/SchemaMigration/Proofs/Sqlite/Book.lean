import Mathlib.Data.List.Nodup
import SchemaMigration.Proofs.Sqlite.Records
import SchemaMigration.Sqlite.Target

/-!
# The bookkeeping as a machine

`Book`       : who has the lock, and the records, no version twice.
`Book.step`  : how a book, or none before it was first ensured, answers a call, and what it is afterwards.
`Represents` : the two tables of a database hold the book, or neither is there; nothing else leads to them.
-/

namespace SchemaMigration.Sqlite

set_option autoImplicit false

open Sql (Database Table Row Value cell sameName Apart Spares Avoids)
open Time (Instant)

/-! ## The machine -/

/-- Who has the lock, and the records, no version twice. -/
structure Book where
  lock : Option String
  records : List Record
  distinct : (records.map (·.version)).Nodup

namespace Book

def empty : Book := ⟨none, [], List.nodup_nil⟩

def setLock (b : Book) (lock : Option String) : Book := { b with lock }

theorem setLock_ne {b : Book} {lock : Option String} (h : b.lock ≠ lock) : some (b.setLock lock) ≠ some b :=
  fun heq => h (congrArg Book.lock (Option.some.inj heq)).symm

/-- The book with a record of a new version. -/
def add (b : Book) (r : Record) (h : r.version ∉ b.records.map (·.version)) : Book where
  lock := b.lock
  records := b.records ++ [r]
  distinct := by
    rw [List.map_append, List.nodup_append]
    refine ⟨b.distinct, List.nodup_singleton _, fun v hv w hw heq => h ?_⟩
    rwa [heq, List.mem_singleton.1 hw] at hv

/-- How a book answers a call, and what it is afterwards; a call without an answer fails. Before there is a book, the
lock cannot be asked for or given back, and nothing can be applied. `works` tells whether the statements of a migration
can be run. -/
def step (works : Bool) (now : Instant) : (c : Call) → Option Book → Option c.Answer × Option Book
  | .databaseExists, s => (some true, s)
  | .createDatabase, s => (some (), s)
  | .connect, s => (some (), s)
  | .ensureBookkeeping, s => (some (), some (s.getD empty))
  | .appliedRecords, s => (some (s.elim [] fun b => listed b.records), s)
  | .forceUnlock, s => (some (s.any (·.lock.isSome)), s.map (·.setLock none))
  | .tryLock _, none => (none, none)
  | .tryLock holder, some b =>
    match b.lock with
    | none => (some .acquired, some (b.setLock (some holder)))
    | some other => (some (.heldBy other), some b)
  | .unlock _, none => (none, none)
  | .unlock holder, some b => (some (), some (if b.lock = some holder then b.setLock none else b))
  | .apply _ _ _, none => (none, none)
  | .apply m _ user, some b =>
    if h : works = true ∧ m.version ∉ b.records.map (·.version) then
      (some (m.record user now), some (b.add (m.record user now) h.2))
    else (none, some b)

end Book

/-! ## Books in databases -/

/-- The rows of the table of the lock: one with the holder and a time, or none. -/
inductive LockRows : Option String → List Row → Prop
  | free : LockRows none []
  | held (holder time : String) : LockRows (some holder) [[.integer 1, .text holder, .text time]]

def lockTableWith (rows : List Row) : Table := { lockTable with rows }

/-- The database has neither table, and nothing else has the name of one. -/
structure Bare (db : Database) : Prop where
  records : db.named recordTable.name = []
  lock : db.named lockTable.name = []
  indexes : ∀ i ∈ db.indexes, sameName i.name recordTable.name = false ∧ sameName i.name lockTable.name = false

/-- The two tables of the database hold the book. -/
structure Holds (b : Book) (db : Database) : Prop where
  records : db.named recordTable.name = [recordsTable b.records]
  lock : ∃ rows, LockRows b.lock rows ∧ db.named lockTable.name = [lockTableWith rows]
  times : ∀ r ∈ b.records, r.appliedAt.IsPlain

/-- The two tables of the database hold the book, or neither is there; nothing else leads to them. -/
structure Represents (s : Option Book) (db : Database) : Prop where
  tables : s.elim (Bare db) (Holds · db)
  records : Apart recordTable.name db
  lock : Apart lockTable.name db

/-! ## The two tables -/

theorem recordTable_ne_lockTable : sameName recordTable.name lockTable.name = false := by decide

theorem lockTable_ne_recordTable : sameName lockTable.name recordTable.name = false := by decide

/-- Columns that refer to nothing name no table. -/
theorem avoids_columns {t : Table} (h : ∀ c ∈ t.columns, c.names = []) (name : String) :
    ∀ c ∈ t.columns, Avoids name c.names := by
  intro c hc
  rw [h c hc]
  exact fun _ h => absurd h List.not_mem_nil

theorem avoids_recordTable (name : String) : ∀ c ∈ recordTable.columns, Avoids name c.names :=
  avoids_columns (by decide) name

theorem avoids_lockTable (name : String) : ∀ c ∈ lockTable.columns, Avoids name c.names :=
  avoids_columns (by decide) name

variable {b : Book} {db : Database}

theorem Holds.recordTable? (h : Holds b db) :
    db.table? recordTable.name = some (recordsTable b.records) := Database.table?_of_named h.records

theorem Holds.lockTable? (h : Holds b db) :
    ∃ rows, LockRows b.lock rows ∧ db.table? lockTable.name = some (lockTableWith rows) ∧
      db.put (lockTableWith rows) = db := by
  obtain ⟨rows, hrows, hlock⟩ := h.lock
  have hsame : sameName (lockTableWith rows).name lockTable.name = true := Sql.sameName_self _
  exact ⟨rows, hrows, Database.table?_of_named hlock, Database.put_self hsame hlock⟩

theorem Bare.recordTable? (h : Bare db) : db.table? recordTable.name = none := Database.table?_of_named_nil h.records

theorem Bare.lockTable? (h : Bare db) : db.table? lockTable.name = none := Database.table?_of_named_nil h.lock

theorem Represents.putLock (h : Represents (some b) db) {lock : Option String} {rows : List Row}
    (hrows : LockRows lock rows) : Represents (some (b.setLock lock)) (db.put (lockTableWith rows)) := by
  have hother : sameName (lockTableWith rows).name recordTable.name = false := lockTable_ne_recordTable
  have hsame : sameName (lockTableWith rows).name lockTable.name = true := Sql.sameName_self _
  obtain ⟨hrecords, ⟨_, _, hlock⟩, htimes⟩ := h.tables
  refine ⟨⟨?_, ⟨rows, hrows, ?_⟩, htimes⟩, h.records.apart_put (avoids_lockTable _),
    h.lock.apart_put (avoids_lockTable _)⟩
  · rw [Database.named_put_of_ne hother, hrecords]
    rfl
  · rw [Database.named_put_same hsame, hlock]
    rfl

theorem represents_empty : Represents none .empty where
  tables := ⟨rfl, rfl, by simp [Database.empty]⟩
  records := ⟨by simp [Database.empty], by simp [Database.empty]⟩
  lock := ⟨by simp [Database.empty], by simp [Database.empty]⟩

/-! ## Ensuring -/

theorem ensureTable_of_none {t : Table} (h : db.table? t.name = none) : ensureTable t db = db.create t := by
  rw [ensureTable, h]
  rfl

theorem ensureTable_of_some {t u : Table} (h : db.table? t.name = some u) : ensureTable t db = db := by
  rw [ensureTable, h]
  rfl

theorem Bare.ensureTables (h : Bare db) : ensureTables db = (db.create recordTable).create lockTable := by
  have hlock : (db.create recordTable).named lockTable.name = [] := by
    rw [Database.named_create, h.lock, recordTable_ne_lockTable]
    rfl
  rw [Sqlite.ensureTables, ensureTable_of_none h.recordTable?,
    ensureTable_of_none (Database.table?_of_named_nil hlock)]

theorem Holds.ensureTables (h : Holds b db) : ensureTables db = db := by
  obtain ⟨rows, -, hlock, -⟩ := h.lockTable?
  rw [Sqlite.ensureTables, ensureTable_of_some h.recordTable?, ensureTable_of_some hlock]

theorem Represents.ensureTables {s : Option Book} (h : Represents s db) :
    Represents (some (s.getD .empty)) (ensureTables db) := by
  cases s with
  | some b =>
    rw [Holds.ensureTables h.tables]
    exact h
  | none =>
    have hbare : Bare db := h.tables
    rw [hbare.ensureTables]
    refine ⟨⟨?_, ⟨[], .free, ?_⟩, fun _ h => absurd h List.not_mem_nil⟩, ?_, ?_⟩
    · rw [Database.named_create, Database.named_create, hbare.records, lockTable_ne_recordTable, Sql.sameName_self]
      rfl
    · rw [Database.named_create, Database.named_create, hbare.lock, recordTable_ne_lockTable, Sql.sameName_self]
      rfl
    · exact (h.records.apart_create (avoids_recordTable _)).apart_create (avoids_lockTable _)
    · exact (h.lock.apart_create (avoids_recordTable _)).apart_create (avoids_lockTable _)

/-- Nothing stands in the way of the tables. -/
theorem Represents.ensureBookkeeping {s : Option Book} (h : Represents s db) :
    ensureBookkeeping db = (.ok (), Sqlite.ensureTables db) := by
  cases s with
  | some b =>
    have hrecords : CanBeThere recordTable db := .inl (by rw [Holds.recordTable? h.tables]; rfl)
    obtain ⟨rows, -, hlock, -⟩ := Holds.lockTable? h.tables
    exact ensureBookkeeping_eq hrecords (.inl (by rw [hlock]; rfl))
  | none =>
    have hbare : Bare db := h.tables
    exact ensureBookkeeping_eq (.inr fun i hi => (hbare.indexes i hi).1) (.inr fun i hi => (hbare.indexes i hi).2)

end SchemaMigration.Sqlite
