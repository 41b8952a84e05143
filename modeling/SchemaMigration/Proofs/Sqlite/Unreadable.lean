import SchemaMigration.Proofs.Run.Migrating
import SchemaMigration.Proofs.Sqlite.InFile
import SchemaMigration.Proofs.Sqlite.ReadBack

/-!
# Rows that cannot be read

`LockFree`  : nobody has the lock, or its table is not there yet.
`FailsWith` : a run that ends in a fault, applies nothing, and leaves every row and the lock as they were.
`readRecords_complete` : no row is left out, and a row that cannot be read stops every run that needs the records.

A run that migrates has the lock when it comes to the unreadable row. It gives the lock back, so that what is left is the
database with its two tables. No trigger may watch the table of the lock, or else taking the lock could do anything.
-/

namespace SchemaMigration.Sqlite

set_option autoImplicit false

open Sql (Database Row cell sameName Apart)
open Time (Instant)
open Run (play_bind play_call play_attempt play_liftExcept andThen_ok andThen_error play_of_answer)

/-! ## Vocabulary -/

/-- Nobody has the lock: its table has no row, or neither it nor anything else of its name is there. -/
def LockFree (db : Database) : Prop :=
  db.named lockTable.name = [lockTable] ∨
    db.named lockTable.name = [] ∧ ∀ i ∈ db.indexes, sameName i.name lockTable.name = false

/-- Against files of which one holds the database `before`, the run ends in the fault and applies no migration. The
database has then got the table of the lock at most, all other files are as before, and the lock is free. -/
structure FailsWith {α : Type} (r : Run α) (f : Fault) (here : FilePath) (c : Connection) (now : Instant)
    (p : FilePath) (before : Database) (fs : Files Content) : Prop where
  result : (r.play (engine here c now) fs).result = .error f
  applies : ∀ call ∈ (r.play (engine here c now) fs).calls, call.isApply = false
  left : ∃ after, (after = before ∨ after = before.create lockTable) ∧ LockFree after ∧
    Moves here c p after fs (r.play (engine here c now) fs).state

variable {rows : List Row} {db : Database} {now : Instant} {f : Fault} {o : RunOptions} {folder : Folder}
  {set : MigrationSet}

/-! ## The lock -/

theorem HasRows.ensureTables (h : HasRows rows db) : ensureTables db = ensureTable lockTable db := by
  have hrecords : ensureTable recordTable db = db := ensureTable_of_some h
  rw [Sqlite.ensureTables, hrecords]

theorem HasRows.ensureBookkeeping (hdb : HasRows rows db) (h : LockFree db) :
    ensureBookkeeping db = (.ok (), Sqlite.ensureTables db) := by
  have hrecords : CanBeThere recordTable db := .inl (Option.isSome_iff_exists.2 ⟨_, hdb⟩)
  refine ensureBookkeeping_eq hrecords ?_
  obtain hempty | ⟨-, hindexes⟩ := h
  · exact .inl (by rw [Database.table?_of_named hempty]; rfl)
  · exact .inr hindexes

/-- A free lock is free after its table was ensured, the table is there, and nothing leads to it. -/
theorem LockFree.ensureTables (hdb : HasRows rows db) (h : LockFree db) (hapart : Apart lockTable.name db) :
    (ensureTables db).named lockTable.name = [lockTable] ∧ Apart lockTable.name (Sqlite.ensureTables db) ∧
      (Sqlite.ensureTables db = db ∨ Sqlite.ensureTables db = db.create lockTable) := by
  rw [hdb.ensureTables]
  obtain hempty | ⟨hnone, -⟩ := h
  · rw [ensureTable_of_some (Database.table?_of_named hempty)]
    exact ⟨hempty, hapart, .inl rfl⟩
  · rw [ensureTable_of_none (Database.table?_of_named_nil hnone), Database.named_create, hnone, Sql.sameName_self]
    exact ⟨rfl, hapart.apart_create (avoids_lockTable _), .inr rfl⟩

/-- The database with the lock taken. -/
def lockedBy (holder : String) (now : Instant) (db : Database) : Database :=
  db.put (lockTableWith [lockRow holder now])

theorem tryLock_lockedBy (h : db.named lockTable.name = [lockTable]) (hapart : Apart lockTable.name db)
    (holder : String) (attempts : Nat) :
    tryLock holder now (attempts + 1) db = (.ok .acquired, lockedBy holder now db) :=
  tryLock_free hapart (Database.table?_of_named h) holder now attempts

/-- Giving back a lock that was free before leaves no trace. -/
theorem unlock_lockedBy (h : db.named lockTable.name = [lockTable]) (hapart : Apart lockTable.name db)
    (holder : String) : unlock holder (lockedBy holder now db) = (.ok (), db) := by
  let locked := lockTableWith [lockRow holder now]
  have hsame : sameName locked.name lockTable.name = true := Sql.sameName_self _
  have hnamed : (lockedBy holder now db).named lockTable.name = [locked] := by
    rw [lockedBy, Database.named_put_same hsame, h]
    rfl
  have hlocked : Apart lockTable.name (lockedBy holder now db) := hapart.apart_put (avoids_lockTable _)
  have hempty : (lockedBy holder now db).put lockTable = db := by
    rw [lockedBy, Database.put_put hsame]
    exact Database.put_self (Sql.sameName_self _) h
  rw [unlock_own hlocked (Database.table?_of_named hnamed), hempty]

/-- The records are read the same way whatever becomes of the lock. -/
theorem readRecords_congr {db' : Database}
    (h : db'.named recordTable.name = db.named recordTable.name) : readRecords db' = readRecords db := by
  rw [readRecords, readRecords, Database.spelled?, Database.spelled?, Database.table?_congr h]

theorem readRecords_lockedBy (holder : String) : readRecords (lockedBy holder now db) = readRecords db :=
  readRecords_congr (Database.named_put_of_ne lockTable_ne_recordTable)

theorem readRecords_create : readRecords (db.create lockTable) = readRecords db := by
  refine readRecords_congr ?_
  rw [Database.named_create, lockTable_ne_recordTable]
  exact List.append_nil _

/-! ## Runs -/

theorem within_plain {α : Type} {call : Database → Except Fault α × Database} {r : Except Fault α} {after : Database}
    (h : call db = (r, after)) : Executor.plain.within call db = (r, after) := within_of_changed (e := .plain) (x := db) h

theorem target_appliedRecords (hfault : readRecords db = .error f) :
    target now .appliedRecords db = (.error f, db) := congrArg (·, db) hfault

/-- The work under the lock ends with the fault of the records. -/
theorem play_runPending_unread (hload : MigrationSet.load folder = .ok set) (hfault : readRecords db = .error f) :
    (Run.runPending o folder).play (target now) db = ⟨.error f, db, [.appliedRecords], []⟩ := by
  rw [Run.runPending, hload, play_bind, play_liftExcept, andThen_ok, play_bind,
    play_of_answer _ (target_appliedRecords hfault), andThen_error]
  rfl

theorem play_migrate_unread (hdb : HasRows rows db) (hfree : LockFree db) (hapart : Apart lockTable.name db)
    (hload : MigrationSet.load folder = .ok set) (hfault : readRecords db = .error f) :
    (Run.migrate o folder).play (target now) db =
      ⟨.error f, ensureTables db, [.databaseExists, .connect, .ensureBookkeeping, .tryLock o.holder, .appliedRecords,
        .unlock o.holder], []⟩ := by
  obtain ⟨hnamed, hensuredApart, hensured⟩ := hfree.ensureTables hdb hapart
  have hfault' : readRecords (lockedBy o.holder now (ensureTables db)) = .error f := by
    rw [readRecords_lockedBy]
    obtain heq | heq := hensured
    · rw [heq, hfault]
    · rw [heq, readRecords_create, hfault]
  have hopen : (Run.openDatabase o).play (target now) db = ⟨.ok (), db, [.databaseExists, .connect], []⟩ := rfl
  have hensure : target now .ensureBookkeeping db = (.ok (), ensureTables db) :=
    within_plain (hdb.ensureBookkeeping hfree)
  have hlock : target now (.tryLock o.holder) (ensureTables db) = (.ok .acquired, lockedBy o.holder now (ensureTables db)) :=
    within_plain (tryLock_lockedBy hnamed hensuredApart o.holder 99)
  have htake : (Run.takeLock o.holder).play (target now) (ensureTables db) =
      ⟨.ok (), lockedBy o.holder now (ensureTables db), [.tryLock o.holder], []⟩ := by
    rw [Run.takeLock, play_bind, play_of_answer _ hlock, andThen_ok]
    rfl
  have hunlock : target now (.unlock o.holder) (lockedBy o.holder now (ensureTables db)) = (.ok (), ensureTables db) :=
    within_plain (unlock_lockedBy hnamed hensuredApart o.holder)
  have hunder : (Run.underLock o folder).play (target now) (lockedBy o.holder now (ensureTables db)) =
      ⟨.error f, ensureTables db, [.appliedRecords, .unlock o.holder], []⟩ := by
    rw [Run.underLock, play_bind, play_attempt, play_runPending_unread hload hfault', andThen_ok, play_bind,
      play_attempt, play_of_answer _ hunlock, andThen_ok]
    rfl
  rw [Run.migrate_eq, play_bind, hopen, andThen_ok, play_bind, play_of_answer _ hensure, andThen_ok, play_bind, htake,
    andThen_ok, hunder]
  rfl

theorem play_plan_unread (hload : MigrationSet.load folder = .ok set) (hfault : readRecords db = .error f) :
    (Run.plan folder).play (target now) db = ⟨.error f, db, [.databaseExists, .connect, .appliedRecords], []⟩ := by
  have hread : target now .appliedRecords db = (.error f, db) := target_appliedRecords hfault
  have hlook : Run.readRecords.play (target now) db =
      ⟨.error f, db, [.databaseExists, .connect, .appliedRecords], []⟩ := by
    have hexists : target now .databaseExists db = (.ok true, db) := rfl
    have hconnect : target now .connect db = (.ok (), db) := rfl
    rw [Run.readRecords, play_bind, play_of_answer _ hexists, andThen_ok, if_pos rfl, play_bind,
      play_of_answer _ hconnect, andThen_ok, play_bind, play_of_answer _ hread, andThen_error]
    rfl
  rw [Run.plan, hload, play_bind, play_liftExcept, andThen_ok, play_bind, hlook, andThen_error]
  rfl

theorem play_status_unread (hload : MigrationSet.load folder = .ok set) (hfault : readRecords db = .error f) :
    (Run.status folder).play (target now) db = ⟨.error f, db, [.databaseExists, .connect, .appliedRecords], []⟩ := by
  rw [Run.status, play_bind, play_plan_unread hload hfault, andThen_error]

/-! ## Runs against files -/

/-- A run that fails against the database and leaves it with its two tables fails so against the files. -/
theorem FailsWith.of_play {α : Type} {r : Run α} {here : FilePath} {c : Connection} {p : FilePath} {after : Database}
    {calls : List Call} {fs : Files Content} (hfile : InFile here c p db fs)
    (hplay : r.play (target now) db = ⟨.error f, after, calls, []⟩) (hcalls : ∀ call ∈ calls, call.isApply = false)
    (hafter : after = db ∨ after = db.create lockTable) (hfree : LockFree after) :
    FailsWith r f here c now p db fs := by
  obtain ⟨hresult, hmade, -, hmoves⟩ := hfile.play now r
  rw [hplay] at hresult hmade hmoves
  exact ⟨hresult, hmade ▸ hcalls, after, hafter, hfree, hmoves⟩

/-- No row of the table of records is left out. Either each row is read as one record, in the order of the versions, or
reading fails; it fails if a row is unreadable and not otherwise. Then every run that needs the records fails with the
same fault, whatever files and folders there are, and changes nothing, if the lock is free; a run that migrates does so
if nothing leads to the table of the lock. -/
theorem readRecords_complete (hdb : HasRows rows db) :
    ((∃ sorted rs, readRecords db = .ok rs ∧ sorted.Perm rows ∧
        sorted.Pairwise (fun a b => versionCell a ≤ versionCell b) ∧ List.Forall₂ ReadsAs sorted rs) ∨
      ∃ reason, readRecords db = .error (.database reason)) ∧
      ((∃ f, readRecords db = .error f) ↔ ∃ row ∈ rows, Unreadable row) ∧
      ∀ f, readRecords db = .error f → LockFree db → ∀ here c p fs, InFile here c p db fs →
        ∀ now o folder set, MigrationSet.load folder = .ok set →
          (Apart lockTable.name db → FailsWith (Run.migrate o folder) f here c now p db fs) ∧
            FailsWith (Run.plan folder) f here c now p db fs ∧
            FailsWith (Run.status folder) f here c now p db fs := by
  refine ⟨?_, readRecords_eq_error_iff hdb, ?_⟩
  · obtain ⟨rs, hrs, hall⟩ | ⟨-, reason, hfault⟩ := readRecords_cases hdb
    · exact .inl ⟨sortRows rows, rs, hrs, sortRows_perm rows, pairwise_sortRows rows, hall⟩
    · exact .inr ⟨reason, hfault⟩
  · intro f hfault hfree here c p fs hfile now o folder set hload
    refine ⟨fun hapart => ?_, ?_, ?_⟩
    · obtain ⟨hnamed, -, hensured⟩ := hfree.ensureTables hdb hapart
      exact .of_play hfile (play_migrate_unread hdb hfree hapart hload hfault) (by simp [Call.isApply]) hensured (.inl hnamed)
    · exact .of_play hfile (play_plan_unread hload hfault) (by simp [Call.isApply]) (.inl rfl) hfree
    · exact .of_play hfile (play_status_unread hload hfault) (by simp [Call.isApply]) (.inl rfl) hfree

/-! ## A row with a corrupt time -/

/-- The name of a database file in the root folder. -/
theorem components_rootFile : Files.components "/a.db" = ["a.db"] := by
  have hsplit : "/a.db".splitOn "/" = ["", "a.db"] := by
    -- one step for each character
    rw [String.splitOn, if_neg (by decide), String.splitOnAux, if_neg (by decide), if_pos (by decide),
      if_pos (by decide), String.splitOnAux, if_neg (by decide), if_neg (by decide), String.splitOnAux,
      if_neg (by decide), if_neg (by decide), String.splitOnAux, if_neg (by decide), if_neg (by decide),
      String.splitOnAux, if_neg (by decide), if_neg (by decide), String.splitOnAux, if_pos (by decide)]
    decide
  rw [Files.components, hsplit]
  decide

def rootConnection : Connection := ⟨"/", "ann", "", "a", none⟩

theorem databaseFile_rootConnection : rootConnection.databaseFile = .ok "/a.db" := by
  have hjoin : joinPath "/" "a.db" = "/a.db" := by
    have hname : "a.db".startsWith "/" = false := by
      rw [String.startsWith_string_eq_false_iff]
      decide
    have hfolder : "/".endsWith "/" = true := by
      rw [String.endsWith_eq_endsWith_toSlice, String.Slice.endsWith_string_iff]
      simp
    simp [joinPath, hname, hfolder]
  rw [Connection.databaseFile, if_neg (by decide)]
  exact congrArg _ hjoin

/-- A root folder with the file of one database in it. -/
def rootFiles (db : Database) : Files Content := ⟨[(["a.db"], .file (.database db))]⟩

theorem inFile_rootFiles (db : Database) : InFile [] rootConnection ["a.db"] db (rootFiles db) where
  folder := by
    have hroot : (rootFiles db).resolve [] "/" = .ok [] := by
      rw [Files.resolve, Files.components_slash, if_neg (by decide), Files.walk]
      split <;> rfl
    rw [Files.isFolder, Files.find]
    simp [rootConnection, hroot, Files.node?, bind, Except.bind, pure, Except.pure]
  path := by
    refine ⟨"/a.db", databaseFile_rootConnection, ?_⟩
    have hstart : (if "/a.db".startsWith "/" then [] else ([] : FilePath)) = [] := by split <;> rfl
    rw [Files.resolve, if_neg (by decide), components_rootFile, hstart, Files.walk.eq_3 _ _ _ _ _ (by decide)]
    rfl
  node := rfl

/-- A row whose time is no time, among others, stops every run on a folder with one migration. -/
theorem readRecords_complete_corrupt :
    let rows : List Row := [[.integer 7, .text "b", .text "c0ffee", .text "ann", .text "2026-01-02 03:04:05"],
      [.integer (-1), .text "a", .text "c0ffee", .text "ann", .text "yesterday"]]
    let db := (ensureTables .empty).put (recordTableWith rows)
    let f : Fault := .database "migration -1 has a corrupt applied_at: not a time"
    (∃ row ∈ rows, Unreadable row) ∧ readRecords db = .error f ∧ LockFree db ∧ Apart lockTable.name db ∧
      FailsWith (Run.migrate firstRun oneFile) f [] rootConnection ⟨0, 0⟩ ["a.db"] db (rootFiles db) ∧
      FailsWith (Run.plan oneFile) f [] rootConnection ⟨0, 0⟩ ["a.db"] db (rootFiles db) ∧
      FailsWith (Run.status oneFile) f [] rootConnection ⟨0, 0⟩ ["a.db"] db (rootFiles db) := by
  intro rows db f
  have hdb : HasRows rows db := by
    rw [HasRows]
    decide +kernel
  have hsorted : sortRows rows = rows.reverse := by
    simp [rows, sortRows, List.mergeSort, List.MergeSort.Internal.splitInTwo, versionCell, cell]
  have hfault : readRecords db = .error f := by
    rw [hdb.readRecords, hsorted]
    decide +kernel
  have hfree : LockFree db := .inl (by decide +kernel)
  have hapart : Apart lockTable.name db := ⟨by decide +kernel, by decide +kernel⟩
  have hload : MigrationSet.load oneFile = .ok oneMigration := rfl
  obtain ⟨-, hiff, hfails⟩ := readRecords_complete hdb
  obtain ⟨hmigrate, hothers⟩ := hfails f hfault hfree [] rootConnection ["a.db"] (rootFiles db) (inFile_rootFiles db)
    ⟨0, 0⟩ firstRun oneFile oneMigration hload
  exact ⟨hiff.1 ⟨f, hfault⟩, hfault, hfree, hapart, hmigrate hapart, hothers⟩

end SchemaMigration.Sqlite
