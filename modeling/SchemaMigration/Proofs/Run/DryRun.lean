import SchemaMigration.Proofs.History.Agreement
import SchemaMigration.Proofs.Run.Outcome
import SchemaMigration.Proofs.Run.StatusHistory

/-!
# What a plan foretells

`OnlyLooks`      : a run has changed nothing and has made no calls but those that look.
`Foretells`      : a plan says what a migrating run did.
`plan_foretells` : plans only look, and a run that succeeds does what a plan before it says.

A plan is read off the status, a run off the comparison of files and records. That the two agree is a matter of the
history alone; here the plan and the run are shown to see the same files and the same records, although the plan looks
at no records if there is no database.
-/

namespace SchemaMigration

set_option autoImplicit false

open Run (Course Looks Migrates Opens Played Serves)

/-! ## Vocabulary -/

/-- Whether the call looks at the database without changing it. -/
def Call.isLooking : Call → Bool
  | databaseExists | connect | appliedRecords => true
  | _ => false

/-- A run has changed nothing, and has made no calls but those that look. -/
structure OnlyLooks {α : Type} (s : Rehearsal) (played : Played Rehearsal α) : Prop where
  state : played.state = s
  calls : ∀ c ∈ played.calls, c.isLooking = true

/-- A plan says what a migrating run did: what it applied, in order, and what it found applied before. -/
structure Foretells (plan : Plan) (report : Report) : Prop where
  pending : plan.pending.map (fun y => (y.version, y.name)) = report.applied.map fun r => (r.version, r.name)
  skipped : (plan.entries.filter (·.state.isSkipped)).length = report.skipped
  drifted : (plan.entries.filter (·.state.isDrifted)).map (·.version) = report.drifted
  missing : ((plan.entries.filter (·.state.isMissing)).map (·.version)).Perm report.missing

/-! ## Looking -/

namespace Rehearsal

theorem answer_of_isLooking {c : Call} (h : c.isLooking = true) (s : Rehearsal) : (answer c s).2 = s := by
  obtain hs | ⟨f, hs⟩ := answer_cases c s
  · rw [hs]
    cases c with
    | databaseExists | connect | appliedRecords => rfl
    | _ => simp [Call.isLooking] at h
  · rw [hs]

theorem serves_of_isLooking {s u : Rehearsal} {t : List Answered} (h : Serves answer s t u)
    (ht : ∀ x ∈ t, x.call.isLooking = true) : u = s :=
  h.keeps (·.isLooking = true) (· = s) (fun _ v hc hv => (answer_of_isLooking hc v).trans hv) ht rfl

end Rehearsal

theorem Run.Looks.isLooking {t : List Answered} {e : Except Fault (Bool × List Record)} (h : Looks t e) :
    ∀ x ∈ t, x.call.isLooking = true := by
  cases h <;> simp [Call.isLooking]

/-- A run that has more to do than to open the database has asked for it and is connected. -/
theorem Run.Migrates.entered {o : RunOptions} {folder : Folder} {t : List Answered} {e : Except Fault Report}
    (h : Migrates o folder t e) {x : Answered} (hx : x ∈ t) (hwork : x.call.isOpening = false) :
    ∃ there, ⟨.databaseExists, .ok there⟩ ∈ t ∧ ⟨.connect, .ok ()⟩ ∈ t := by
  obtain ⟨opening, rest, opened, rfl, hopens, -, hfault⟩ := h.split
  have hrest : x ∈ rest := (List.mem_append.1 hx).resolve_left fun hx => by
    simp [hopens.isOpening x hx] at hwork
  cases opened with
  | error f => simp [(hfault f rfl).1] at hrest
  | ok _ => cases hopens <;> simp

section

variable {folder : Folder} {s : Rehearsal}

theorem isLooking_of_plan {t : List Answered} {e : Except Fault Plan} (h : Course (Run.plan folder).run t e) :
    ∀ x ∈ t, x.call.isLooking = true := by
  obtain ⟨f, -, rfl, -⟩ | ⟨set, found, -, hlooks, -⟩ := Run.course_plan h
  · simp
  · exact hlooks.isLooking

/-- A run all of whose calls look only looks. -/
theorem onlyLooks_of_isLooking {α : Type} {r : Run α}
    (h : ∀ x ∈ r.transcript Rehearsal.answer s, x.call.isLooking = true) :
    OnlyLooks s (r.play Rehearsal.answer s) where
  state := Rehearsal.serves_of_isLooking (Run.serves_transcript r _ s) h
  calls := by
    rw [← Run.map_call_transcript]
    simpa using h

theorem onlyLooks_plan : OnlyLooks s ((Run.plan folder).play Rehearsal.answer s) :=
  onlyLooks_of_isLooking (isLooking_of_plan (Run.course_transcript _ _ s))

theorem onlyLooks_status : OnlyLooks s ((Run.status folder).play Rehearsal.answer s) := by
  obtain ⟨planned, hplan, -⟩ := Run.course_status (Run.course_transcript (Run.status folder) Rehearsal.answer s)
  exact onlyLooks_of_isLooking (isLooking_of_plan hplan)

/-! ## A plan before a run -/

/-- The plan of a set for all records that there are. -/
theorem play_plan {set : MigrationSet} (hs : s.Anchored) (hload : MigrationSet.load folder = .ok set)
    (hasks : s.failure? .databaseExists = none) (hconnects : s.failure? .connect = none)
    (hreads : s.failure? .appliedRecords = none) :
    ((Run.plan folder).play Rehearsal.answer s).result = .ok (Run.planOf set (s.databaseExists, s.records)) := by
  have hread : (Run.readRecords.play Rehearsal.answer s).result = .ok (s.databaseExists, s.records) := by
    rw [Run.readRecords, Run.play_bind, Rehearsal.play_databaseExists hasks, Run.andThen_ok]
    cases hexists : s.databaseExists with
    | true => simp [Rehearsal.play_connect hconnects, Rehearsal.play_appliedRecords hreads, Run.andThen_ok]
    | false =>
      have hnone : s.records = [] := by
        by_contra hrecords
        simp [hs hrecords] at hexists
      simp [hnone]
  rw [Run.plan, hload, Run.play_bind, Run.play_liftExcept, Run.andThen_ok, Run.play_bind]
  simp only [Played.andThen, hread]
  rfl

/-- The plan for the files and the records says what a run with them did. -/
theorem foretells_planOf {set : MigrationSet} {records applied : List Record} (there : Bool)
    (hdistinct : (records.map (·.version)).Nodup)
    (happlied : applied.map (fun r => (r.version, r.name)) =
      (set.unrecorded records).map fun m => (m.version, m.name)) :
    Foretells (Run.planOf set (there, records)) (Run.reportOf (Diff.of set records) applied) where
  pending := by
    change ((statusEntries set records).filter (·.state == .pending)).map _ = applied.map _
    rw [pending_statusEntries, pending_eq, List.map_map, happlied]
    rfl
  skipped := skipped_statusEntries set records
  drifted := drifted_statusEntries set records
  missing := by
    refine (List.perm_ext_iff_of_nodup ?_ ?_).2 fun v => mem_missing_statusEntries
    · exact List.Pairwise.imp UInt64.ne_of_lt
        (List.pairwise_map.2 ((ascending_statusEntries set records).filter _))
    · exact (List.filter_sublist.map _).nodup hdistinct

end

/-- Plans and states only look. What a plan says would be done is what a run that succeeds does, whatever its options
are. -/
theorem plan_foretells (o : RunOptions) (folder : Folder) (s : Rehearsal) (hs : s.Anchored)
    (hdistinct : (s.records.map (·.version)).Nodup) :
    OnlyLooks s ((Run.plan folder).play Rehearsal.answer s) ∧
      OnlyLooks s ((Run.status folder).play Rehearsal.answer s) ∧
      ∀ report, ((Run.migrate o folder).play Rehearsal.answer s).result = .ok report →
        ∃ plan, ((Run.plan folder).play Rehearsal.answer s).result = .ok plan ∧ Foretells plan report := by
  refine ⟨onlyLooks_plan, onlyLooks_status, fun report hreport => ?_⟩
  have hcourse := Run.course_transcript (Run.migrate o folder) Rehearsal.answer s
  have hserves := Run.serves_transcript (Run.migrate o folder) Rehearsal.answer s
  rw [hreport] at hcourse
  have hruns : Migrates o folder _ (.ok report) := Run.course_migrate hcourse
  obtain ⟨set, hload, hread, -, happlied, rfl⟩ := hruns.succeeded hserves
  obtain ⟨there, hexists, hconnect⟩ := hruns.entered hread rfl
  refine ⟨_, play_plan hs hload (Rehearsal.silent_of_served hserves rfl hexists)
    (Rehearsal.silent_of_served hserves rfl hconnect) (Rehearsal.silent_of_served hserves rfl hread), ?_⟩
  refine foretells_planOf s.databaseExists hdistinct ?_
  -- each record has the version and the name of the migration that was applied
  rw [← happlied, List.map_map, List.map_map]
  refine List.map_congr_left fun a ha => ?_
  obtain ⟨user, time, hrecord⟩ := Rehearsal.serves_record hserves ha
  simp [hrecord, Migration.record]

/-! ## A plan over drifted and missing files -/

def laterFolder : Folder :=
  ⟨"migrations", some [⟨"3_c.sql", some "SELECT 3".toUTF8⟩, ⟨"1_a.sql", some "SELECT 1".toUTF8⟩,
    ⟨"2_b.sql", some "SELECT 2".toUTF8⟩]⟩

/-- Version 1 was applied with another text, version 2 with its own, and version 9 has no file. -/
def laterTarget : Rehearsal :=
  { Rehearsal.start with
    databaseExists := true
    records := [⟨9, "gone", "", "ann", Rehearsal.epoch⟩, ⟨1, "a", "", "ann", Rehearsal.epoch⟩,
      (⟨2, "b", "2_b.sql", "SELECT 2"⟩ : Migration).record "ann" Rehearsal.epoch] }

def laterReport : Report :=
  ⟨[(⟨3, "c", "3_c.sql", "SELECT 3"⟩ : Migration).record "ann" (Rehearsal.epoch.addSeconds 1)], 2, [1], [9]⟩

theorem plan_foretells_later :
    laterTarget.Anchored ∧ (laterTarget.records.map (·.version)).Nodup ∧
      ((Run.migrate { firstRun with drift := .warn } laterFolder).play Rehearsal.answer laterTarget).result =
        .ok laterReport ∧
      ∃ plan, ((Run.plan laterFolder).play Rehearsal.answer laterTarget).result = .ok plan ∧
        Foretells plan laterReport :=
  have hanchored : laterTarget.Anchored := fun _ => rfl
  have hdistinct : (laterTarget.records.map (·.version)).Nodup := by decide
  have hreport : ((Run.migrate { firstRun with drift := .warn } laterFolder).play Rehearsal.answer laterTarget).result =
      .ok laterReport := by decide +kernel
  ⟨hanchored, hdistinct, hreport, (plan_foretells _ laterFolder laterTarget hanchored hdistinct).2.2 _ hreport⟩

end SchemaMigration
