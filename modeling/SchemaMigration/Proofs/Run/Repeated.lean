import SchemaMigration.Proofs.Run.DryRun
import SchemaMigration.Proofs.Run.Entered

/-!
# A run after a run that went well

`reportOf_recorded`  : what was pending is recorded with its own checksum, so the comparison finds the same as before.
`Succeeded`          : what a run that went well found and left.
`Repeats`            : a run that has nothing to do, and does nothing.
`migrate_repeated`   : a run after one that went well is such a run.
-/

namespace SchemaMigration

set_option autoImplicit false

open Run (Migrates Played reportOf)

/-! ## Vocabulary -/

/-- What a run that went well found and left: the next run is let in, and finds all that was pending recorded. -/
structure Succeeded (o : RunOptions) (folder : Folder) (s : Rehearsal) (set : MigrationSet) (report : Report)
    (u : Rehearsal) : Prop where
  loads : MigrationSet.load folder = .ok set
  drift : (Diff.of set s.records).drifted = [] ∨ o.drift = .warn
  report : ∃ applied, report = reportOf (Diff.of set s.records) applied
  records : u.records = s.records ++ recordsFrom o.user s.applies (set.unrecorded s.records)
  enters : Enters o u
  there : u.databaseExists = true
  reads : u.failure? .appliedRecords = none
  unlocks : u.failure? .unlock = none

/-- A run on a rehearsal finds what another run reported, has nothing to do, and leaves all as it is. -/
structure Repeats (holder : String) (folder : Folder) (u : Rehearsal) (report : Report)
    (played : Played Rehearsal Report) : Prop where
  result : ∃ set, MigrationSet.load folder = .ok set ∧
    played.result = .ok { applied := [], skipped := set.size, drifted := report.drifted, missing := report.missing }
  /-- No database is made and no migration is applied. -/
  calls : played.calls =
    [.databaseExists, .connect, .ensureBookkeeping, .tryLock holder, .appliedRecords, .unlock holder]
  state : played.state = u

/-! ## The comparison after a run -/

section

variable {set : MigrationSet} {records : List Record} {user : String} {n : Nat}

theorem lastRecord?_append (records added : List Record) (v : Version) :
    lastRecord? (records ++ added) v = (lastRecord? added v).or (lastRecord? records v) := by
  rw [lastRecord?, List.reverse_append, List.find?_append]
  rfl

theorem mem_recordsFrom {ms : List Migration} {r : Record} (h : r ∈ recordsFrom user n ms) :
    ∃ m ∈ ms, ∃ time, r = m.record user time := by
  induction ms generalizing n with
  | nil => exact absurd h List.not_mem_nil
  | cons m ms ih =>
    obtain rfl | h := List.mem_cons.1 h
    · exact ⟨m, List.mem_cons_self, _, rfl⟩
    · obtain ⟨x, hx, hr⟩ := ih h
      exact ⟨x, List.mem_cons_of_mem _ hx, hr⟩

theorem mem_unrecorded {m : Migration} :
    m ∈ set.unrecorded records ↔ m ∈ set.toList ∧ lastRecord? records m.version = none := by
  rw [← pending_eq, Diff.of, List.mem_filter, Migration.isPending, Option.isNone_iff_eq_none]

/-- The record of a version that was pending is that of its migration. -/
theorem lastRecord?_recordsFrom {m : Migration} (hm : m ∈ set.toList) {r : Record}
    (h : lastRecord? (recordsFrom user n (set.unrecorded records)) m.version = some r) :
    m ∈ set.unrecorded records ∧ r.checksum = m.checksum := by
  obtain ⟨hr, hversion⟩ := lastRecord?_eq_some h
  obtain ⟨x, hx, time, rfl⟩ := mem_recordsFrom hr
  -- a version has one migration
  obtain rfl : x = m := Option.some.inj <|
    (MigrationSet.get?_eq_some.2 ⟨(mem_unrecorded.1 hx).1, hversion⟩).symm.trans (MigrationSet.get?_eq_some.2 ⟨hm, rfl⟩)
  exact ⟨hx, rfl⟩

theorem unrecorded_recorded :
    set.unrecorded (records ++ recordsFrom user n (set.unrecorded records)) = [] := by
  refine List.eq_nil_iff_forall_not_mem.2 fun m hm => ?_
  obtain ⟨hset, hlast⟩ := mem_unrecorded.1 hm
  obtain ⟨hnew, hold⟩ := Option.or_eq_none_iff.1 ((lastRecord?_append records _ _).symm.trans hlast)
  have hversion : m.version ∈ (recordsFrom user n (set.unrecorded records)).map (·.version) := by
    rw [map_version_recordsFrom]
    exact List.mem_map_of_mem (mem_unrecorded.2 ⟨hset, hold⟩)
  obtain ⟨r, hr, hrversion⟩ := List.mem_map.1 hversion
  exact lastRecord?_eq_none.1 hnew r hr hrversion

theorem isDrifted_recorded {m : Migration} (hm : m ∈ set.toList) :
    m.isDrifted (records ++ recordsFrom user n (set.unrecorded records)) = m.isDrifted records := by
  simp only [Migration.isDrifted, lastRecord?_append]
  cases hnew : lastRecord? (recordsFrom user n (set.unrecorded records)) m.version with
  | none => rfl
  | some r =>
    obtain ⟨hpending, hsame⟩ := lastRecord?_recordsFrom hm hnew
    simp [(mem_unrecorded.1 hpending).2, hsame]

theorem filter_missing_recordsFrom :
    (recordsFrom user n (set.unrecorded records)).filter (fun r => (set.get? r.version).isNone) = [] := by
  refine List.filter_eq_nil_iff.2 fun r hr hmissing => ?_
  obtain ⟨m, hm, time, rfl⟩ := mem_recordsFrom hr
  have hfile : set.get? m.version = some m := MigrationSet.get?_eq_some.2 ⟨(mem_unrecorded.1 hm).1, rfl⟩
  simp [Migration.record, hfile] at hmissing

/-- After all that was pending is recorded nothing is pending, and the rest of the comparison is as it was. -/
theorem reportOf_recorded (applied : List Record) :
    let after := Diff.of set (records ++ recordsFrom user n (set.unrecorded records))
    let report := reportOf (Diff.of set records) applied
    reportOf after [] =
      { applied := [], skipped := set.size, drifted := report.drifted, missing := report.missing } := by
  intro after report
  have hpending : after.pending = [] := (pending_eq set _).trans unrecorded_recorded
  have hskipped : after.skipped = set.size := by
    rw [← length_pending_add_skipped set (records ++ recordsFrom user n (set.unrecorded records))]
    simp [after, hpending]
  have hdrifted : after.drifted = (Diff.of set records).drifted := List.filter_congr fun m hm => isDrifted_recorded hm
  have hmissing : after.missing = (Diff.of set records).missing := by
    simp only [after, Diff.of, List.filter_append, filter_missing_recordsFrom, List.append_nil]
  simp only [reportOf, hskipped, hdrifted, hmissing, report]

end

/-! ## The first run -/

section

variable {o : RunOptions} {folder : Folder} {s u : Rehearsal} {t : List Answered} {report : Report}

/-- A run that ends well has the bookkeeping and the lock, and has released the lock. -/
theorem Run.Migrates.released (h : Migrates o folder t (.ok report)) :
    ⟨.ensureBookkeeping, .ok ()⟩ ∈ t ∧ ⟨.tryLock o.holder, .ok .acquired⟩ ∈ t ∧ ⟨.unlock o.holder, .ok ()⟩ ∈ t := by
  generalize he : Except.ok report = e at h
  cases h with
  | unopened | unensured | unlocked | refused => simp at he
  | @locked opening work worked _ _ released =>
    cases worked <;> cases released <;> simp_all [Run.settled]

theorem Succeeded.of_result (h : ((Run.migrate o folder).play Rehearsal.answer s).result = .ok report) :
    ∃ set, Succeeded o folder s set report ((Run.migrate o folder).play Rehearsal.answer s).state := by
  have hcourse := Run.course_transcript (Run.migrate o folder) Rehearsal.answer s
  have hserves := Run.serves_transcript (Run.migrate o folder) Rehearsal.answer s
  rw [h] at hcourse
  have hruns : Migrates o folder _ (.ok report) := Run.course_migrate hcourse
  obtain ⟨set, hload, hread, hdrift, happlied, hreport⟩ := hruns.succeeded hserves
  obtain ⟨there, hasked, hconnected⟩ := hruns.entered hread rfl
  obtain ⟨hensured, hacquired, hreleased⟩ := hruns.released
  have hsilent {k : CallKind} {c : Call} {a : c.Answer} (hk : c.kind? = some k)
      (hx : ⟨c, .ok a⟩ ∈ (Run.migrate o folder).transcript Rehearsal.answer s) :
      ((Run.migrate o folder).play Rehearsal.answer s).state.failure? k = none := by
    rw [Rehearsal.failure?, Rehearsal.serves_failures hserves]
    exact Rehearsal.silent_of_served hserves hk hx
  have hexists := hruns.databaseExists hserves hread rfl
  refine ⟨set, hload, hdrift, ⟨_, hreport⟩, ?_, ⟨hsilent rfl hasked, .inl hexists, hsilent rfl hconnected,
    hsilent rfl hensured, hsilent rfl hacquired, ?_⟩, hexists, hsilent rfl hread, hsilent rfl hreleased⟩
  · rw [Rehearsal.serves_records hserves, Rehearsal.serves_recordsFrom hserves hruns.user, happlied]
  · obtain ⟨before, work, released, worked, ht, hbefore, hwork, -⟩ := hruns.acquired hacquired
    have hunlocked := Rehearsal.silent_of_served hserves rfl hreleased
    rw [ht] at hserves
    exact (Rehearsal.lockedBy_of_acquired hserves (fun x hx => Call.isLocking_of_isOpening (hbefore x hx))
      fun x hx => Call.isLocking_of_isWork (hwork x hx)).2 hunlocked

/-! ## The second run -/

/-- With nothing pending the work is to read the records. -/
theorem Run.play_runPending_nothing {set : MigrationSet} (hloads : MigrationSet.load folder = .ok set)
    (hreads : s.failure? .appliedRecords = none) (hdrift : (Diff.of set s.records).drifted = [] ∨ o.drift = .warn)
    (hrest : set.unrecorded s.records = []) :
    ∃ events, (runPending o folder).play Rehearsal.answer s =
      ⟨.ok (reportOf (Diff.of set s.records) []), s, [.appliedRecords], events⟩ := by
  obtain ⟨events, hwork⟩ := play_runPending_applies hloads hreads hdrift
  rw [hrest] at hwork
  exact ⟨events, hwork⟩

/-- The lock that a run took is free again after its release. -/
theorem Rehearsal.answer_unlock_lockedFor (holder : String) (hexists : u.databaseExists = true)
    (hfree : u.lockedBy = none) (hunlocks : u.failure? .unlock = none) :
    answer (.unlock holder) (u.lockedFor holder) = (.ok (), u) := by
  have hu : { u.lockedFor holder with lockedBy := none } = u := by
    rw [lockedFor, ← hexists, ← hfree]
  have hsilent : (u.lockedFor holder).failure? .unlock = none := hunlocks
  rw [answer_of_silent rfl hsilent, perform, hu]
  simp [lockedFor]

theorem Succeeded.repeats {set : MigrationSet} (h : Succeeded o folder s set report u) (holder : String) :
    Repeats holder folder u report ((Run.migrate { o with holder } folder).play Rehearsal.answer u) := by
  obtain ⟨applied, hreport⟩ := h.report
  have henters : Enters { o with holder } u := ⟨h.enters.asks, .inl h.there, h.enters.connects, h.enters.ensures,
    h.enters.locks, h.enters.free⟩
  have hdrift : (Diff.of set u.records).drifted = [] ∨ o.drift = .warn := by
    refine h.drift.imp_left fun hnone => ?_
    rw [← hnone, h.records]
    exact List.filter_congr fun m hm => isDrifted_recorded hm
  have hrest : set.unrecorded u.records = [] := by
    rw [h.records]
    exact unrecorded_recorded
  have hsame : reportOf (Diff.of set u.records) [] =
      { applied := [], skipped := set.size, drifted := report.drifted, missing := report.missing } := by
    rw [h.records, hreport]
    exact reportOf_recorded applied
  obtain ⟨_, hwork⟩ := Run.play_runPending_nothing (o := { o with holder }) (s := u.lockedFor holder) h.loads h.reads
    hdrift hrest
  have hrecords : (u.lockedFor holder).records = u.records := rfl
  rw [hrecords, hsame] at hwork
  have hunlock := Rehearsal.answer_unlock_lockedFor holder h.there h.enters.free h.unlocks
  obtain ⟨_, hplay⟩ := Run.play_migrate_of_enters folder henters
  simp only [hwork, hunlock] at hplay
  rw [hplay]
  exact ⟨⟨set, h.loads, rfl⟩, by simp [Run.openingCalls, h.there], rfl⟩

end

/-- A run after one that went well, under whatever name, finds the same and does nothing. -/
theorem migrate_repeated (o : RunOptions) (folder : Folder) (s : Rehearsal) (report : Report)
    (h : ((Run.migrate o folder).play Rehearsal.answer s).result = .ok report) (holder : String) :
    let u := ((Run.migrate o folder).play Rehearsal.answer s).state
    Repeats holder folder u report ((Run.migrate { o with holder } folder).play Rehearsal.answer u) := by
  obtain ⟨set, hset⟩ := Succeeded.of_result h
  exact hset.repeats holder

/-! ## A second run over drifted, missing and late versions -/

theorem migrate_repeated_later :
    ((Run.migrate { firstRun with drift := .warn } laterFolder).play Rehearsal.answer laterTarget).result =
        .ok laterReport ∧
      Repeats "again" laterFolder
        ((Run.migrate { firstRun with drift := .warn } laterFolder).play Rehearsal.answer laterTarget).state
        laterReport
        ((Run.migrate { firstRun with drift := .warn, holder := "again" } laterFolder).play Rehearsal.answer
          ((Run.migrate { firstRun with drift := .warn } laterFolder).play Rehearsal.answer laterTarget).state) :=
  have hreport : ((Run.migrate { firstRun with drift := .warn } laterFolder).play Rehearsal.answer laterTarget).result =
      .ok laterReport := by decide +kernel
  ⟨hreport, migrate_repeated _ laterFolder laterTarget laterReport hreport "again"⟩

end SchemaMigration
