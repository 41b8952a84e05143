import SchemaMigration.Proofs.Run.Play
import SchemaMigration.Run.Migrate

/-!
# What a run applies

`Admits`  : the conditions under which a run gets to the migrations that are pending.
`Stops`   : why a run goes no further through the pending migrations.
`Passage` : which migrations a run applied, and what it left and reported.
`migrate_passage` : a run applies pending migrations in order, up to the first that fails.
-/

namespace SchemaMigration

set_option autoImplicit false

open Run (Played)

/-! ## Vocabulary -/

/-- Whether the call applies a migration. -/
def Call.isApply : Call → Bool
  | apply .. => true
  | _ => false

/-- The migrations of a set whose versions are not recorded, in ascending order. -/
def MigrationSet.unrecorded (set : MigrationSet) (records : List Record) : List Migration :=
  set.toList.filter fun m => records.all (·.version != m.version)

/-- A migration and the statements to run of it. -/
structure Job where
  migration : Migration
  statements : List String

/-- The call that applies the migration. -/
def Job.call (user : String) (j : Job) : Call := .apply j.migration j.statements user

/-- Whether the statements are those of the migration and the rehearsal lets them succeed. -/
def Job.Succeeds (o : RunOptions) (s : Rehearsal) (j : Job) : Prop :=
  j.migration.prepare o.severalStatements = .ok j.statements ∧ s.fails j.statements = false

/-- The records of migrations that are applied one after another, `n` others having been applied before. -/
def recordsFrom (user : String) (n : Nat) : List Migration → List Record
  | [] => []
  | m :: ms => m.record user (Rehearsal.epoch.addSeconds (n + 1)) :: recordsFrom user (n + 1) ms

/-- The rehearsal after the migrations were applied. -/
def Rehearsal.after (s : Rehearsal) (user : String) (ms : List Migration) : Rehearsal :=
  { s with records := s.records ++ recordsFrom user s.applies ms, applies := s.applies + ms.length }

/-- Why a run goes no further through the pending migrations: there are none left, the first has no statements, or it
fails. The call is the one made for the first, if any; the fault is the one that ends the run. -/
inductive Stops (o : RunOptions) (s : Rehearsal) : List Migration → Option Call → Option Fault → Prop
  | finished : Stops o s [] none none
  | unprepared {m : Migration} {rest : List Migration} {f : Fault} (h : m.prepare o.severalStatements = .error f) :
      Stops o s (m :: rest) none (some f)
  | failed {m : Migration} {rest : List Migration} {statements : List String} {f : Fault}
      (h : m.prepare o.severalStatements = .ok statements) (hf : s.apply m statements o.user = (.error f, s)) :
      Stops o s (m :: rest) (some (.apply m statements o.user)) (some f)

/-- The conditions under which a run gets the lock, loads the set and does not stop over changed files. -/
structure Admits (o : RunOptions) (folder : Folder) (s : Rehearsal) (set : MigrationSet) : Prop where
  asks : s.failure? .databaseExists = none
  creates : s.databaseExists = true ∨ o.createDatabase = true ∧ s.failure? .createDatabase = none
  connects : s.failure? .connect = none
  ensures : s.failure? .ensureBookkeeping = none
  locks : s.failure? .tryLock = none
  free : s.lockedBy = none
  loads : MigrationSet.load folder = .ok set
  reads : s.failure? .appliedRecords = none
  drift : (Diff.of set s.records).drifted = [] ∨ o.drift = .warn

/-- The conditions under which a run gets the lock. -/
structure Enters (o : RunOptions) (s : Rehearsal) : Prop where
  asks : s.failure? .databaseExists = none
  creates : s.databaseExists = true ∨ o.createDatabase = true ∧ s.failure? .createDatabase = none
  connects : s.failure? .connect = none
  ensures : s.failure? .ensureBookkeeping = none
  locks : s.failure? .tryLock = none
  free : s.lockedBy = none

theorem Admits.enters {o : RunOptions} {folder : Folder} {s : Rehearsal} {set : MigrationSet}
    (h : Admits o folder s set) : Enters o s :=
  ⟨h.asks, h.creates, h.connects, h.ensures, h.locks, h.free⟩

/-- What became of a run that gets to the pending migrations: `done` were applied and `rest` were not. -/
structure Passage (o : RunOptions) (s : Rehearsal) (set : MigrationSet) (played : Played Rehearsal Report)
    (done : List Job) (rest : List Migration) : Prop where
  /-- The migrations are taken in ascending order. -/
  ascending : Ascending (set.unrecorded s.records)
  /-- The applied migrations come first. -/
  pending : set.unrecorded s.records = done.map (·.migration) ++ rest
  succeed : ∀ j ∈ done, j.Succeeds o s
  /-- Each applied migration was applied once, and nothing else was but the one that failed. -/
  stops : ∃ last fault?, Stops o (s.after o.user (done.map (·.migration))) rest last fault? ∧
    played.calls.filter Call.isApply = done.map (Job.call o.user) ++ last.toList ∧
    match fault? with
    | some f => played.result = .error f
    | none =>
      match s.failure? .unlock with
      | some text => played.result = .error (.database text)
      | none => ∃ report, played.result = .ok report ∧
          report.applied = recordsFrom o.user s.applies (done.map (·.migration)) ∧
          report.applied.length + report.skipped = set.size
  /-- The records are kept, and one is added for each applied migration. -/
  records : played.state.records = s.records ++ recordsFrom o.user s.applies (done.map (·.migration))

/-! ## Pending migrations -/

theorem isPending_eq (records : List Record) (m : Migration) :
    m.isPending records = records.all (·.version != m.version) := by
  rw [Migration.isPending, lastRecord?, ← Option.not_isSome, List.isSome_find?, List.any_reverse,
    List.not_any_eq_all_not]
  rfl

theorem pending_eq (set : MigrationSet) (records : List Record) :
    (Diff.of set records).pending = set.unrecorded records := by
  simp only [Diff.of, MigrationSet.unrecorded, isPending_eq]

/-- Every migration of a set is pending or recorded. -/
theorem length_pending_add_skipped (set : MigrationSet) (records : List Record) :
    (Diff.of set records).pending.length + (Diff.of set records).skipped = set.size := by
  have h := List.length_eq_countP_add_countP (·.isPending records) (l := set.toList)
  simpa [MigrationSet.size, Diff.of, List.countP_eq_length_filter] using h.symm

theorem ascending_unrecorded (set : MigrationSet) (records : List Record) : Ascending (set.unrecorded records) :=
  set.ascending.filter _

theorem length_recordsFrom (user : String) (n : Nat) (ms : List Migration) :
    (recordsFrom user n ms).length = ms.length := by
  induction ms generalizing n with
  | nil => rfl
  | cons m ms ih => simp [recordsFrom, ih]

/-! ## One migration after another -/

theorem Rehearsal.apply_eq_error {s : Rehearsal} {m : Migration} {statements : List String} {user : String}
    {f : Fault} : s.apply m statements user = (.error f, s) ↔
      s.fails statements = true ∧ f = .migrationFailed m.version m.name "boom" := by
  rw [Rehearsal.apply]
  split
  · next h => simp [h, eq_comm]
  · next h => simp [h]

section

variable (o : RunOptions)

namespace Run

theorem play_applyOne_unprepared {m : Migration} {f : Fault} (h : m.prepare o.severalStatements = .error f)
    (s : Rehearsal) : (applyOne o m).play Rehearsal.answer s = ⟨.error f, s, [], []⟩ := by
  rw [applyOne, h]
  rfl

theorem play_attempt_apply (m : Migration) (statements : List String) (s : Rehearsal) :
    (attempt (call (.apply m statements o.user))).play Rehearsal.answer s =
      ⟨.ok (s.apply m statements o.user).1, (s.apply m statements o.user).2, [.apply m statements o.user], []⟩ :=
  play_attempt _ _ _

theorem play_applyOne_failed {m : Migration} {statements : List String} {s : Rehearsal}
    (h : m.prepare o.severalStatements = .ok statements) (hf : s.fails statements = true) :
    ∃ f, s.apply m statements o.user = (.error f, s) ∧
      (applyOne o m).play Rehearsal.answer s =
        ⟨.error f, s, [.apply m statements o.user], [.applyFailed m.version f]⟩ := by
  have happly : s.apply m statements o.user = (.error (.migrationFailed m.version m.name "boom"), s) :=
    Rehearsal.apply_eq_error.2 ⟨hf, rfl⟩
  refine ⟨_, happly, ?_⟩
  rw [applyOne, h, play_bind, play_liftExcept, andThen_ok, play_bind, play_attempt_apply, happly]
  rfl

theorem play_applyOne_applied {m : Migration} {statements : List String} {s : Rehearsal}
    (h : m.prepare o.severalStatements = .ok statements) (hf : s.fails statements = false) :
    (applyOne o m).play Rehearsal.answer s =
      ⟨.ok (m.record o.user (Rehearsal.epoch.addSeconds (s.applies + 1))), s.after o.user [m],
        [.apply m statements o.user], []⟩ := by
  have happly : s.apply m statements o.user =
      (.ok (m.record o.user (Rehearsal.epoch.addSeconds (s.applies + 1))), s.after o.user [m]) := by
    rw [Rehearsal.apply, hf, if_neg Bool.false_ne_true]
    rfl
  rw [applyOne, h, play_bind, play_liftExcept, andThen_ok, play_bind, play_attempt_apply, happly]
  rfl

end Run

theorem Rehearsal.after_cons (s : Rehearsal) (user : String) (m : Migration) (ms : List Migration) :
    (s.after user [m]).after user ms = s.after user (m :: ms) := by
  simp [Rehearsal.after, recordsFrom, Nat.add_comm, Nat.add_left_comm]

/-- Migrations are applied in order up to the first that is not. -/
theorem play_applyAll (ms : List Migration) (s : Rehearsal) :
    ∃ (done : List Job) (rest : List Migration) (last : Option Call) (fault? : Option Fault) (events : List Event),
      ms = done.map (·.migration) ++ rest ∧ (∀ j ∈ done, j.Succeeds o s) ∧
      Stops o (s.after o.user (done.map (·.migration))) rest last fault? ∧
      (Run.applyAll o ms).play Rehearsal.answer s =
        ⟨fault?.elim (.ok (recordsFrom o.user s.applies (done.map (·.migration)))) .error,
          s.after o.user (done.map (·.migration)), done.map (Job.call o.user) ++ last.toList, events⟩ := by
  -- What follows the first migration is applied to what the first leaves.
  induction ms generalizing s with
  | nil => exact ⟨[], [], none, none, [], rfl, by simp, .finished, by simp [Run.applyAll, Rehearsal.after, recordsFrom]⟩
  | cons m ms ih =>
    have hnone : s.after o.user [] = s := by simp [Rehearsal.after, recordsFrom]
    cases hp : m.prepare o.severalStatements with
    | error f =>
      refine ⟨[], m :: ms, none, some f, [], rfl, by simp, .unprepared hp, ?_⟩
      rw [Run.applyAll, Run.play_bind, Run.play_applyOne_unprepared o hp, Run.andThen_error]
      simp [hnone]
    | ok statements =>
      cases hf : s.fails statements with
      | true =>
        obtain ⟨f, happly, hplay⟩ := Run.play_applyOne_failed o hp hf
        refine ⟨[], m :: ms, some (.apply m statements o.user), some f, [.applyFailed m.version f], rfl, by simp, ?_,
          ?_⟩
        · rw [List.map_nil, hnone]
          exact .failed hp happly
        · rw [Run.applyAll, Run.play_bind, hplay, Run.andThen_error]
          simp [hnone]
      | false =>
        obtain ⟨done, rest, last, fault?, events, rfl, hdone, hstops, hplay⟩ := ih (s.after o.user [m])
        refine ⟨⟨m, statements⟩ :: done, rest, last, fault?, events, rfl, ?_, ?_, ?_⟩
        · rintro j (_ | ⟨_, hj⟩)
          · exact ⟨hp, hf⟩
          · exact hdone j hj
        · rw [List.map_cons, ← Rehearsal.after_cons]
          exact hstops
        · rw [Run.applyAll, Run.play_bind, Run.play_applyOne_applied o hp hf, Run.andThen_ok, Run.play_bind, hplay,
            Rehearsal.after_cons]
          cases fault? <;> simp [Run.andThen_ok, Run.andThen_error, recordsFrom, Rehearsal.after, Job.call]

end

/-! ## A whole run -/

section

variable {o : RunOptions} {folder : Folder} {s : Rehearsal} {set : MigrationSet}

namespace Run

/-- The calls that open a database. -/
def openingCalls (s : Rehearsal) : List Call :=
  .databaseExists :: ((if s.databaseExists then [] else [.createDatabase]) ++ [.connect])

theorem play_openDatabase (h : Enters o s) :
    (openDatabase o).play Rehearsal.answer s = ⟨.ok (), { s with databaseExists := true }, openingCalls s, []⟩ := by
  rw [openDatabase, play_bind, Rehearsal.play_databaseExists h.asks, andThen_ok]
  cases hd : s.databaseExists with
  | true =>
    have hs : { s with databaseExists := true } = s := by rw [← hd]
    simp [Rehearsal.play_connect h.connects, hs, openingCalls, hd]
  | false =>
    obtain ⟨hcreate, hsilent⟩ := h.creates.resolve_left (by simp [hd])
    have hconnect : Rehearsal.failure? { s with databaseExists := true } .connect = none := h.connects
    simp [hcreate, andThen_ok, Rehearsal.play_createDatabase hsilent, Rehearsal.play_connect hconnect, openingCalls, hd]

theorem play_takeLock {holder : String} (h : s.failure? .tryLock = none) (hfree : s.lockedBy = none) :
    (takeLock holder).play Rehearsal.answer s =
      ⟨.ok (), { s with lockedBy := some holder }, [.tryLock holder], []⟩ := by
  rw [takeLock, play_bind, Rehearsal.play_tryLock h hfree]
  rfl

theorem play_noteGaps (d : Diff) :
    ∃ events, (noteGaps d).play Rehearsal.answer s = ⟨.ok (), s, [], events⟩ := by
  refine ⟨d.missing.map (fun r => .missingFile r.version r.name) ++ d.outOfOrder.map .outOfOrder, ?_⟩
  rw [noteGaps, play_bind, play_forM_note, andThen_ok, play_forM_note]
  rfl

theorem play_judgeDrift {policy : DriftPolicy} {drifted : List Migration} (h : drifted = [] ∨ policy = .warn) :
    ∃ events, (judgeDrift policy drifted).play Rehearsal.answer s = ⟨.ok (), s, [], events⟩ := by
  cases drifted with
  | nil => exact ⟨[], rfl⟩
  | cons m ms =>
    obtain rfl := h.resolve_left (List.cons_ne_nil _ _)
    exact ⟨_, play_forM_note _ (m :: ms) (fun m => .driftIgnored m.version m.name) s⟩

/-- The work under the lock: pending migrations are applied in order up to the first that is not. -/
theorem play_runPending (hloads : MigrationSet.load folder = .ok set) (hreads : s.failure? .appliedRecords = none)
    (hdrift : (Diff.of set s.records).drifted = [] ∨ o.drift = .warn) :
    ∃ (done : List Job) (rest : List Migration) (last : Option Call) (fault? : Option Fault) (report : Report)
      (events : List Event),
      set.unrecorded s.records = done.map (·.migration) ++ rest ∧ (∀ j ∈ done, j.Succeeds o s) ∧
      Stops o (s.after o.user (done.map (·.migration))) rest last fault? ∧
      report.applied = recordsFrom o.user s.applies (done.map (·.migration)) ∧
      report.skipped = (Diff.of set s.records).skipped ∧
      (runPending o folder).play Rehearsal.answer s =
        ⟨fault?.elim (.ok report) .error, s.after o.user (done.map (·.migration)),
          .appliedRecords :: (done.map (Job.call o.user) ++ last.toList), events⟩ := by
  obtain ⟨gaps, hgaps⟩ := play_noteGaps (s := s) (Diff.of set s.records)
  obtain ⟨drifts, hdrifts⟩ := play_judgeDrift (s := s) hdrift
  obtain ⟨done, rest, last, fault?, events, hpending, hdone, hstops, hplay⟩ :=
    play_applyAll o (Diff.of set s.records).pending s
  refine ⟨done, rest, last, fault?,
    ⟨recordsFrom o.user s.applies (done.map (·.migration)), (Diff.of set s.records).skipped,
      (Diff.of set s.records).drifted.map (·.version), (Diff.of set s.records).missing.map (·.version)⟩,
    gaps ++ (drifts ++ events), pending_eq set _ ▸ hpending, hdone, hstops, rfl, rfl, ?_⟩
  rw [runPending, hloads]
  simp only [play_bind, play_liftExcept, andThen_ok, Rehearsal.play_appliedRecords hreads, hgaps, hdrifts, hplay]
  cases fault? <;> simp [andThen_ok, andThen_error]

/-- The release of the lock does not touch the records. -/
theorem play_unlock (holder : String) (s : Rehearsal) :
    ∃ t, t.records = s.records ∧ (attempt (call (.unlock holder))).play Rehearsal.answer s =
      ⟨.ok ((s.failure? .unlock).elim (.ok ()) fun text => .error (.database text)), t, [.unlock holder], []⟩ := by
  cases h : s.failure? .unlock with
  | some text =>
    refine ⟨s, rfl, (play_attempt _ _ _).trans ?_⟩
    rw [play_of_answer Rehearsal.answer (Rehearsal.answer_of_told rfl h)]
    rfl
  | none =>
    refine ⟨if s.lockedBy == some holder then { s with lockedBy := none } else s, ?_, (play_attempt _ _ _).trans ?_⟩
    · split <;> rfl
    · rw [play_of_answer Rehearsal.answer (Rehearsal.answer_of_silent rfl h)]
      rfl

end Run

theorem filter_isApply_jobs (user : String) (js : List Job) :
    (js.map (Job.call user)).filter Call.isApply = js.map (Job.call user) := by
  simp [Job.call, Call.isApply]

/-- Whether a migration fails depends on its statements and on what the rehearsal was told. -/
theorem Stops.congr {t : Rehearsal} {rest : List Migration} {last : Option Call} {fault? : Option Fault}
    (hfails : t.fails = s.fails) (h : Stops o s rest last fault?) : Stops o t rest last fault? := by
  cases h with
  | finished => exact .finished
  | unprepared h => exact .unprepared h
  | failed h hf =>
    rw [Rehearsal.apply_eq_error, ← hfails] at hf
    exact .failed h (Rehearsal.apply_eq_error.2 hf)

theorem Stops.filter_isApply {rest : List Migration} {last : Option Call} {fault? : Option Fault}
    (h : Stops o s rest last fault?) : last.toList.filter Call.isApply = last.toList := by
  cases h <;> rfl

/-- A run takes the lock, works through the pending migrations and releases the lock. -/
theorem play_migrate (h : Admits o folder s set) :
    ∃ (done : List Job) (rest : List Migration) (last : Option Call) (fault? : Option Fault) (report : Report)
      (t : Rehearsal),
      set.unrecorded s.records = done.map (·.migration) ++ rest ∧ (∀ j ∈ done, j.Succeeds o s) ∧
      Stops o (s.after o.user (done.map (·.migration))) rest last fault? ∧
      report.applied = recordsFrom o.user s.applies (done.map (·.migration)) ∧
      report.skipped = (Diff.of set s.records).skipped ∧
      t.records = s.records ++ recordsFrom o.user s.applies (done.map (·.migration)) ∧
      ∃ events, (Run.migrate o folder).play Rehearsal.answer s =
        ⟨fault?.elim ((s.failure? .unlock).elim (.ok report) fun text => .error (.database text)) .error, t,
          Run.openingCalls s ++ [.ensureBookkeeping, .tryLock o.holder, .appliedRecords] ++
            (done.map (Job.call o.user) ++ last.toList) ++ [.unlock o.holder], events⟩ := by
  let opened : Rehearsal := { s with databaseExists := true }
  let locked : Rehearsal := { opened with lockedBy := some o.holder }
  have hensure := Rehearsal.play_ensureBookkeeping (s := opened) h.ensures
  have hlock : (Run.takeLock o.holder).play Rehearsal.answer opened = ⟨.ok (), locked, [.tryLock o.holder], []⟩ :=
    Run.play_takeLock h.locks h.free
  obtain ⟨done, rest, last, fault?, report, events, hpending, hdone, hstops, happlied, hskipped, hplay⟩ :=
    Run.play_runPending (s := locked) h.loads h.reads h.drift
  obtain ⟨t, hrecords, hunlock⟩ := Run.play_unlock o.holder (locked.after o.user (done.map (·.migration)))
  have hfails : (s.after o.user (done.map (·.migration))).fails =
      (locked.after o.user (done.map (·.migration))).fails := rfl
  have hsame : (locked.after o.user (done.map (·.migration))).failure? .unlock = s.failure? .unlock := rfl
  have hwork := Run.play_attempt Rehearsal.answer (Run.runPending o folder) locked
  rw [hplay] at hwork
  rw [hsame] at hunlock
  refine ⟨done, rest, last, fault?, report, t, hpending, hdone, hstops.congr hfails, happlied, hskipped, hrecords, ?_⟩
  rw [Run.migrate, Run.play_bind, Run.play_openDatabase h.enters, Run.andThen_ok, Run.play_bind, hensure, Run.andThen_ok,
    Run.play_bind, hlock, Run.andThen_ok, Run.play_bind, hwork, Run.andThen_ok, Run.play_bind, hunlock, Run.andThen_ok]
  -- which fault wins depends on both ends
  cases fault? <;> cases s.failure? .unlock <;> simp [Run.andThen_ok]

/-- A run that gets to the pending migrations applies them in order, up to the first that fails. -/
theorem migrate_passage (h : Admits o folder s set) :
    ∃ done rest, Passage o s set ((Run.migrate o folder).play Rehearsal.answer s) done rest := by
  obtain ⟨done, rest, last, fault?, report, t, hpending, hdone, hstops, happlied, hskipped, hrecords, events, hplay⟩ :=
    play_migrate h
  have hopening : (Run.openingCalls s).filter Call.isApply = [] := by
    rw [Run.openingCalls]
    cases s.databaseExists <;> rfl
  refine ⟨done, rest, ascending_unrecorded set _, hpending, hdone, ⟨last, fault?, hstops, ?_, ?_⟩, ?_⟩
  · rw [hplay]
    simp [hopening, filter_isApply_jobs, hstops.filter_isApply, Call.isApply]
  · rw [hplay]
    cases hstops with
    | unprepared | failed => rfl
    | finished =>
      cases s.failure? .unlock with
      | some text => rfl
      | none =>
        refine ⟨report, rfl, happlied, ?_⟩
        rw [← length_pending_add_skipped set s.records, pending_eq, hpending, happlied, hskipped, length_recordsFrom]
        simp
  · rw [hplay, hrecords]

end

/-! ## A run on one file -/

def oneFile : Folder := ⟨"migrations", some [⟨"1_a.sql", some "SELECT 1".toUTF8⟩]⟩

def oneMigration : MigrationSet := ⟨[⟨1, "a", "1_a.sql", "SELECT 1"⟩], List.pairwise_singleton _ _⟩

def firstRun : RunOptions := ⟨"app", "ann", "h", true, false, .fail⟩

theorem admits_oneFile : Admits firstRun oneFile .start oneMigration where
  asks := rfl
  creates := .inr ⟨rfl, rfl⟩
  connects := rfl
  ensures := rfl
  locks := rfl
  free := rfl
  loads := rfl
  reads := rfl
  drift := .inl rfl

theorem migrate_passage_oneFile :
    Admits firstRun oneFile .start oneMigration ∧
      ∃ done rest, Passage firstRun .start oneMigration ((Run.migrate firstRun oneFile).play Rehearsal.answer .start)
        done rest :=
  ⟨admits_oneFile, migrate_passage admits_oneFile⟩

end SchemaMigration
