import SchemaMigration.Proofs.Files
import SchemaMigration.Proofs.Run.Play
import SchemaMigration.Sqlite.Engine

/-!
# A database in its file

`InFile`        : the file at a path is that of a connection, and holds a database.
`Moves`         : files of which one holds another database, and all others are as before.
`InFile.engine` : the files answer a call as the database does that one of them holds.
`InFile.play`   : a run against the files goes as it goes against that database.

A file that has changed is found again under its path, since paths lead to the same places as long as files stay files.
-/

namespace SchemaMigration.Sqlite

set_option autoImplicit false

open Sql (Database)
open Time (Instant)

/-! ## A database among files -/

/-- The file at a path is that of the database of a connection, and holds it. -/
structure InFile (here : FilePath) (c : Connection) (p : FilePath) (db : Database) (fs : Files Content) : Prop where
  folder : fs.isFolder here c.host = true
  path : ∃ path, c.databaseFile = .ok path ∧ fs.resolve here path = .ok p
  node : fs.node? p = some (.file (.database db))

/-- The database in the file at a path has become another, and no other node has changed. -/
structure Moves (here : FilePath) (c : Connection) (p : FilePath) (db : Database) (before after : Files Content) :
    Prop where
  inFile : InFile here c p db after
  others : ∀ q, q ≠ p → after.node? q = before.node? q

variable {here : FilePath} {c : Connection} {p : FilePath} {db db' : Database} {fs fs' : Files Content}

theorem InFile.moves (h : InFile here c p db fs) : Moves here c p db fs fs := ⟨h, fun _ _ => rfl⟩

theorem Moves.trans {db'' : Database} {fs'' : Files Content} (h : Moves here c p db' fs fs')
    (h' : Moves here c p db'' fs' fs'') : Moves here c p db'' fs fs'' :=
  ⟨h'.inFile, fun q hq => (h'.others q hq).trans (h.others q hq)⟩

theorem InFile.put (h : InFile here c p db fs) (db' : Database) :
    Moves here c p db' fs (fs.put p (.file (.database db'))) := by
  have halike := Files.alike_put h.node (.database db')
  have hroot : p ≠ [] := by
    rintro rfl
    cases h.node
  have hsome : (fs.node? p).isSome := Option.isSome_iff_exists.2 ⟨_, h.node⟩
  obtain ⟨path, hpath, hresolve⟩ := h.path
  refine ⟨⟨?_, ⟨path, hpath, ?_⟩, ?_⟩, fun q hq => ?_⟩
  · rw [← Files.isFolder_congr halike, h.folder]
  · rw [← Files.resolve_congr halike, hresolve]
  · rw [Files.node?_put hsome hroot, if_pos rfl]
  · rw [Files.node?_put hsome hroot, if_neg hq]

/-! ## Calls -/

theorem InFile.fileIn (h : InFile here c p db fs) : ∃ path, fileIn here c fs = .ok path ∧ fs.resolve here path = .ok p := by
  obtain ⟨path, hpath, hresolve⟩ := h.path
  refine ⟨path, ?_, hresolve⟩
  rw [Sqlite.fileIn, if_pos h.folder, hpath]

theorem InFile.databaseExists (h : InFile here c p db fs) : databaseExists here c fs = .ok true := by
  obtain ⟨path, hpath, hresolve⟩ := h.fileIn
  have hfile : fs.isFile here path = true := by
    rw [Files.isFile, Files.find, hresolve]
    simp [bind, Except.bind, h.node, pure, Except.pure]
  rw [Sqlite.databaseExists, hpath]
  simp [bind, Except.bind, pure, Except.pure, hfile]

theorem InFile.connect (h : InFile here c p db fs) : connect here c fs = .ok () := by
  rw [Sqlite.connect, h.databaseExists]
  rfl

theorem InFile.createDatabase (h : InFile here c p db fs) :
    createDatabase here c fs = .ok (fs.put p (.file (.database db))) := by
  obtain ⟨path, hpath, hresolve⟩ := h.fileIn
  simp [Sqlite.createDatabase, hpath, hresolve, h.node, Content.database?, bind, Except.bind, pure, Except.pure]

theorem InFile.callFile (h : InFile here c p db fs) (now : Instant) (call : Call) :
    callFile here c now call fs = ((target now call db).1, fs.put p (.file (.database (target now call db).2))) := by
  obtain ⟨path, hpath, hresolve⟩ := h.path
  simp only [Sqlite.callFile, hpath, hresolve, h.node, Content.answer, Content.database?]

/-- The files answer a call as the database does that one of them holds, and hold what the database becomes. -/
theorem InFile.engine (h : InFile here c p db fs) (now : Instant) (call : Call) :
    (engine here c now call fs).1 = (target now call db).1 ∧
      Moves here c p (target now call db).2 fs (engine here c now call fs).2 := by
  cases call with
  | databaseExists => exact ⟨h.databaseExists, h.moves⟩
  | connect => exact ⟨h.connect, h.moves⟩
  | createDatabase =>
    rw [Sqlite.engine, h.createDatabase]
    exact ⟨rfl, h.put db⟩
  | ensureBookkeeping | appliedRecords | tryLock | unlock | forceUnlock | apply =>
    simp only [Sqlite.engine, h.callFile]
    exact ⟨trivial, h.put _⟩

/-! ## Runs -/

/-- A run against the files goes as it goes against the database that one of them holds. -/
theorem InFile.play {α : Type} (h : InFile here c p db fs) (now : Instant) (r : Run α) :
    (r.play (Sqlite.engine here c now) fs).result = (r.play (target now) db).result ∧
      (r.play (Sqlite.engine here c now) fs).calls = (r.play (target now) db).calls ∧
      (r.play (Sqlite.engine here c now) fs).events = (r.play (target now) db).events ∧
      Moves here c p (r.play (target now) db).state fs (r.play (Sqlite.engine here c now) fs).state := by
  unfold Run.play
  induction r.run generalizing db fs with
  | done e => exact ⟨rfl, rfl, rfl, h.moves⟩
  | put q next ih =>
    cases q with
    | note e =>
      obtain ⟨hresult, hcalls, hevents, hmoves⟩ := ih () h
      exact ⟨hresult, hcalls, congrArg (e :: ·) hevents, hmoves⟩
    | call call =>
      obtain ⟨hanswer, hmoves⟩ := h.engine now call
      obtain ⟨hresult, hcalls, hevents, hrest⟩ := ih (target now call db).1 hmoves.inFile
      simp only [Run.playSteps, hanswer]
      exact ⟨hresult, congrArg (call :: ·) hcalls, hevents, hmoves.trans hrest⟩

end SchemaMigration.Sqlite
