import SchemaMigration.Proofs.Migration.Load
import SchemaMigration.Proofs.Run.Bracket

/-!
# Sessions

`Site`         : files and a rehearsed database.
`Deed`         : what may happen to them: a change of the files, a run, or a change of the database by somebody else.
`Site.after`   : what a session, deed after deed, leaves.
`Site.history` : what the runs of a session have applied.
`appliesOnly_calls` : a deed applies only what its folder has and the records have not, in order.
`Accrues`      : what a deed makes of the records.
`session_recorded_once` : no version is ever applied twice, and the records only grow.

The recorded versions stay distinct because what a deed applies comes in ascending order and has no record before
(`nodup_act`). What a whole session has applied is what it has added to the records (`records_after`), so no version is in
it twice either.
-/

namespace SchemaMigration

set_option autoImplicit false

open Run (Applies Course Migrates Looks Serves Works)

/-! ## Vocabulary -/

/-- Files and a rehearsed database. -/
structure Site where
  files : Files ByteArray
  target : Rehearsal

/-- What may happen at a site. The paths of runs are those of their folders. -/
inductive Deed
  | put (path : FilePath) (node : Node ByteArray)
  | remove (path : FilePath)
  | migrate (o : RunOptions) (path : String)
  | plan (path : String)
  | status (path : String)
  | forceUnlock
  | setDatabase (there : Bool)
  | setLock (holder : Option String)
  | setFailures (failures : List (CallKind × String))
  | setPoison (poison : Option String)

namespace Site

/-- The folder at a path, as it is now. -/
def folder (s : Site) (path : String) : Folder := s.files.folder id [] path

/-- The site after a deed. -/
def act (s : Site) : Deed → Site
  | .put path node => { s with files := s.files.place path node }
  | .remove path => { s with files := s.files.erase path }
  | .migrate o path => { s with target := ((Run.migrate o (s.folder path)).play Rehearsal.answer s.target).state }
  | .plan path => { s with target := ((Run.plan (s.folder path)).play Rehearsal.answer s.target).state }
  | .status path => { s with target := ((Run.status (s.folder path)).play Rehearsal.answer s.target).state }
  | .forceUnlock => { s with target := (Run.forceUnlock.play Rehearsal.answer s.target).state }
  | .setDatabase there => { s with target := { s.target with databaseExists := there } }
  | .setLock holder => { s with target := { s.target with lockedBy := holder } }
  | .setFailures failures => { s with target := { s.target with failures := failures } }
  | .setPoison poison => { s with target := { s.target with poison := poison } }

/-- The calls of a deed, with their answers; only runs make any. -/
def calls (s : Site) : Deed → List Answered
  | .migrate o path => (Run.migrate o (s.folder path)).transcript Rehearsal.answer s.target
  | .plan path => (Run.plan (s.folder path)).transcript Rehearsal.answer s.target
  | .status path => (Run.status (s.folder path)).transcript Rehearsal.answer s.target
  | .forceUnlock => Run.forceUnlock.transcript Rehearsal.answer s.target
  | _ => []

/-- The site after one deed after another. -/
def after (s : Site) (ds : List Deed) : Site := ds.foldl act s

/-- What deeds, one after another, have applied. -/
def history (s : Site) : List Deed → List Application
  | [] => []
  | d :: ds => applications (s.calls d) ++ (s.act d).history ds

end Site

/-! ## What is due -/

/-- The migrations of a folder that are not recorded, in ascending order; none if the folder does not load. -/
def Folder.due (folder : Folder) (records : List Record) : List Migration :=
  match MigrationSet.load folder with
  | .ok set => set.unrecorded records
  | .error _ => []

theorem Folder.due_eq {folder : Folder} {set : MigrationSet} (h : MigrationSet.load folder = .ok set)
    (records : List Record) : folder.due records = set.unrecorded records := by
  rw [due, h]

theorem Folder.ascending_due (folder : Folder) (records : List Record) : Ascending (folder.due records) := by
  unfold due
  split
  · exact ascending_unrecorded _ records
  · exact .nil

/-- What is due has a file and no record. -/
theorem Folder.mem_due {folder : Folder} {records : List Record} {m : Migration} (h : m ∈ folder.due records) :
    folder.Holds m ∧ ∀ r ∈ records, r.version ≠ m.version := by
  unfold due at h
  split at h
  · next set hload =>
    obtain ⟨hm, hnew⟩ := List.mem_filter.1 h
    exact ⟨(MigrationSet.mem_load hload).1 hm, by simpa using hnew⟩
  · exact absurd h List.not_mem_nil

/-- The calls apply nothing but these migrations, in their order. -/
structure AppliesOnly (ms : List Migration) (t : List Answered) : Prop where
  applied : (applications t).map (·.migration) <+: ms
  asked : ∀ m statements user r, ⟨.apply m statements user, r⟩ ∈ t → m ∈ ms

namespace AppliesOnly

variable {ms : List Migration} {t u : List Answered}

theorem of_isApply (h : ∀ x ∈ t, x.call.isApply = false) : AppliesOnly ms t where
  applied := by
    rw [applications_eq_nil h]
    exact List.nil_prefix
  asked m statements user r hx := by simpa [Call.isApply] using h _ hx

theorem append_left (hu : ∀ x ∈ u, x.call.isApply = false) (h : AppliesOnly ms t) : AppliesOnly ms (u ++ t) where
  applied := by
    rw [applications_append, applications_eq_nil hu]
    exact h.applied
  asked m statements user r hx := by
    obtain hx | hx := List.mem_append.1 hx
    · simpa [Call.isApply] using hu _ hx
    · exact h.asked m statements user r hx

theorem append_right (h : AppliesOnly ms t) (hu : ∀ x ∈ u, x.call.isApply = false) : AppliesOnly ms (t ++ u) where
  applied := by
    rw [applications_append, applications_eq_nil hu, List.append_nil]
    exact h.applied
  asked m statements user r hx := by
    obtain hx | hx := List.mem_append.1 hx
    · exact h.asked m statements user r hx
    · simpa [Call.isApply] using hu _ hx

theorem of_applies {o : RunOptions} {e : Except Fault (List Record)} (h : Applies o ms t e) : AppliesOnly ms t := by
  induction h with
  | finished | unprepared => exact of_isApply (by simp)
  | @failed m rest statements _ f =>
    refine ⟨List.nil_prefix, fun x _ _ _ hx => ?_⟩
    cases List.mem_singleton.1 hx
    exact List.mem_cons_self
  | @applied m rest statements t e _ r _ ih =>
    refine ⟨List.cons_prefix_cons.2 ⟨rfl, ih.applied⟩, fun x _ _ _ hx => ?_⟩
    obtain hx | hx := List.mem_cons.1 hx
    · cases hx
      exact List.mem_cons_self
    · exact List.mem_cons_of_mem _ (ih.asked x _ _ _ hx)

end AppliesOnly

/-- A migrating run applies only what is due. -/
theorem appliesOnly_due {o : RunOptions} {folder : Folder} {t : List Answered} {e : Except Fault Report}
    {s u : Rehearsal} (h : Migrates o folder t e) (hs : Serves Rehearsal.answer s t u) :
    AppliesOnly (folder.due s.records) t := by
  by_cases hacquired : ⟨.tryLock o.holder, .ok .acquired⟩ ∈ t
  · obtain ⟨before, work, released, worked, rfl, hbefore, -, hwork, -⟩ := h.acquired hacquired
    have hopening : ∀ x ∈ before ++ [⟨.tryLock o.holder, .ok .acquired⟩], x.call.isApply = false := by
      simpa [or_imp, forall_and, Call.isApply] using fun x hx => Call.isApply_of_isOpening (hbefore x hx)
    rw [List.append_cons] at hs ⊢
    refine .append_left hopening (.append_right ?_ (by simp [Call.isApply]))
    cases hwork with
    | unloaded | unread | drifted => exact .of_isApply (by simp [Call.isApply])
    | @applies set records t e hload _ ht =>
      obtain ⟨v, hv, hread⟩ := Run.serves_append.1 hs
      rcases hread with _ | ⟨hanswer, -⟩
      have hrecords : records = s.records := by
        rw [Rehearsal.answer_appliedRecords hanswer, Rehearsal.serves_records hv, applications_eq_nil hopening]
        exact List.append_nil _
      subst hrecords
      rw [Folder.due_eq hload]
      exact .append_left (u := [_]) (by simp [Call.isApply]) (.of_applies ht)
  · refine .of_isApply fun x hx => ?_
    obtain hc | hc := (h.unacquired hacquired).1 x hx
    · exact Call.isApply_of_isOpening hc
    · rw [hc]
      rfl

/-- A plan applies nothing. -/
theorem isApply_of_plan {folder : Folder} {t : List Answered} {e : Except Fault Plan}
    (h : Course (Run.plan folder).run t e) : ∀ x ∈ t, x.call.isApply = false := by
  obtain ⟨f, -, rfl, -⟩ | ⟨set, found, -, hlooks, -⟩ := Run.course_plan h
  · simp
  · cases hlooks <;> simp [Call.isApply]

/-- Records that say what their migrations say have the versions of these. -/
theorem map_version_record {as : List Application}
    (h : ∀ a ∈ as, ∃ user time, a.record = a.migration.record user time) :
    (as.map (·.record)).map (·.version) = as.map (·.migration.version) := by
  rw [List.map_map]
  refine List.map_congr_left fun a ha => ?_
  obtain ⟨user, time, hrecord⟩ := h a ha
  exact congrArg Record.version hrecord

/-! ## One deed -/

namespace Site

variable (s : Site) (d : Deed)

/-- What a deed may apply. -/
def due (s : Site) : Deed → List Migration
  | .migrate _ path => (s.folder path).due s.target.records
  | _ => []

/-- A deed is a run, or it makes no calls and leaves the records as they are. -/
theorem serves_calls :
    Serves Rehearsal.answer s.target (s.calls d) (s.act d).target ∨
      s.calls d = [] ∧ (s.act d).target.records = s.target.records := by
  cases d with
  | migrate | plan | status | forceUnlock => exact .inl (Run.serves_transcript _ _ _)
  | put | remove | setDatabase | setLock | setFailures | setPoison => exact .inr ⟨rfl, rfl⟩

/-- Only a migrating run applies anything, and that is what is due. -/
theorem appliesOnly_calls : AppliesOnly (s.due d) (s.calls d) := by
  cases d with
  | migrate o path =>
    exact appliesOnly_due (Run.course_migrate (Run.course_transcript _ _ _)) (Run.serves_transcript _ _ _)
  | plan path => exact .of_isApply (isApply_of_plan (Run.course_transcript _ _ _))
  | status path =>
    obtain ⟨planned, hplan, -⟩ := Run.course_status (Run.course_transcript (Run.status (s.folder path)) _ s.target)
    exact .of_isApply (isApply_of_plan hplan)
  | forceUnlock =>
    refine .of_isApply fun x hx => ?_
    obtain ⟨f, ht, -⟩ | ht := Run.course_forceUnlock (Run.course_transcript Run.forceUnlock Rehearsal.answer s.target)
    · rw [calls, ht] at hx
      cases List.mem_singleton.1 hx
      rfl
    · rw [calls, ht] at hx
      simp only [List.mem_cons, List.not_mem_nil, or_false] at hx
      rcases hx with rfl | rfl <;> rfl
  | put | remove | setDatabase | setLock | setFailures | setPoison => exact .of_isApply (by simp [calls])

variable {s d}

/-- What a deed may apply has a file in the folder of its run, and no record. -/
theorem mem_due {m : Migration} (h : m ∈ s.due d) :
    (∃ o path, d = .migrate o path ∧ (s.folder path).Holds m) ∧ ∀ r ∈ s.target.records, r.version ≠ m.version := by
  cases d with
  | migrate o path =>
    obtain ⟨hfile, hnew⟩ := Folder.mem_due h
    exact ⟨⟨o, path, rfl, hfile⟩, hnew⟩
  | _ => exact absurd h List.not_mem_nil

theorem ascending_due : Ascending (s.due d) := by
  cases d with
  | migrate o path => exact Folder.ascending_due _ _
  | _ => exact .nil

theorem mem_due_of_mem {a : Application} (h : a ∈ applications (s.calls d)) : a.migration ∈ s.due d :=
  (s.appliesOnly_calls d).applied.subset (List.mem_map_of_mem h)

/-- A deed keeps the records and adds those of what it applies. -/
theorem records_act : (s.act d).target.records = s.target.records ++ (applications (s.calls d)).map (·.record) := by
  obtain h | ⟨hnone, hkept⟩ := s.serves_calls d
  · exact Rehearsal.serves_records h
  · rw [hnone, hkept]
    exact (List.append_nil _).symm

/-- What is applied is recorded with what its migration says. -/
theorem record_of_mem {a : Application} (h : a ∈ applications (s.calls d)) :
    ∃ user time, a.record = a.migration.record user time := by
  obtain hserves | ⟨hnone, -⟩ := s.serves_calls d
  · exact Rehearsal.serves_record hserves h
  · simp [hnone] at h

/-- The versions that are recorded. -/
def versions (s : Site) : List Version := s.target.records.map (·.version)

theorem versions_act :
    (s.act d).versions = s.versions ++ (applications (s.calls d)).map (·.migration.version) := by
  rw [versions, records_act, List.map_append, map_version_record fun a ha => record_of_mem ha]
  rfl

/-- What is applied has its own version, and one that is not recorded. -/
theorem nodup_act (h : s.versions.Nodup) : (s.act d).versions.Nodup := by
  rw [versions_act]
  refine List.nodup_append'.2 ⟨h, ?_, fun v hv happlied => ?_⟩
  · have hprefix := (s.appliesOnly_calls d).applied.map (·.version)
    rw [List.map_map] at hprefix
    exact hprefix.sublist.nodup ascending_due.nodup
  · obtain ⟨r, hr, rfl⟩ := List.mem_map.1 hv
    obtain ⟨a, ha, hversion⟩ := List.mem_map.1 happlied
    exact (mem_due (mem_due_of_mem ha)).2 r hr hversion.symm

/-! ## Deed after deed -/

variable {ds : List Deed}

theorem nodup_after (h : s.versions.Nodup) : (s.after ds).versions.Nodup := by
  induction ds generalizing s with
  | nil => exact h
  | cons d ds ih => exact ih (nodup_act h)

theorem records_after : (s.after ds).target.records = s.target.records ++ (s.history ds).map (·.record) := by
  induction ds generalizing s with
  | nil => exact (List.append_nil _).symm
  | cons d ds ih =>
    change ((s.act d).after ds).target.records = _
    rw [ih, records_act, history, List.map_append, List.append_assoc]

theorem record_of_mem_history {a : Application} (h : a ∈ s.history ds) :
    ∃ user time, a.record = a.migration.record user time := by
  induction ds generalizing s with
  | nil => exact absurd h List.not_mem_nil
  | cons d ds ih =>
    obtain h | h := List.mem_append.1 h
    · exact record_of_mem h
    · exact ih h

theorem versions_after : (s.after ds).versions = s.versions ++ (s.history ds).map (·.migration.version) := by
  rw [versions, records_after, List.map_append, map_version_record fun a ha => record_of_mem_history ha]
  rfl

end Site

/-- What a deed makes of the records. -/
structure Accrues (s : Site) (d : Deed) : Prop where
  distinct : (s.act d).versions.Nodup
  kept : s.target.records <+: (s.act d).target.records
  /-- No recorded version is applied again, not even in vain. -/
  fresh : ∀ m statements user answer, ⟨.apply m statements user, answer⟩ ∈ s.calls d → m.version ∉ s.versions
  /-- Each new record is that of a file in the folder of the run, as it is then. -/
  truthful : ∀ r ∈ (s.act d).target.records, r ∉ s.target.records → ∃ o path m,
    d = .migrate o path ∧ (s.folder path).Holds m ∧
      r.version = m.version ∧ r.name = m.name ∧ r.checksum = m.checksum

theorem Site.accrues {s : Site} (h : s.versions.Nodup) (d : Deed) : Accrues s d where
  distinct := nodup_act h
  kept := by
    rw [records_act]
    exact List.prefix_append _ _
  fresh m statements user answer hx hm := by
    obtain ⟨r, hr, hversion⟩ := List.mem_map.1 hm
    exact (mem_due ((s.appliesOnly_calls d).asked m statements user answer hx)).2 r hr hversion
  truthful r hr hnew := by
    rw [records_act] at hr
    obtain ⟨a, ha, rfl⟩ := List.mem_map.1 ((List.mem_append.1 hr).resolve_left hnew)
    obtain ⟨⟨o, path, hd, hfile⟩, -⟩ := mem_due (mem_due_of_mem ha)
    obtain ⟨user, time, hrecord⟩ := record_of_mem ha
    rw [hrecord]
    exact ⟨o, path, a.migration, hd, hfile, rfl, rfl, rfl⟩

/-- Over a whole session no version is applied twice, and every deed keeps the records and adds only what files say. -/
theorem session_recorded_once (s : Site) (ds : List Deed) (h : s.versions.Nodup) :
    ((s.history ds).map (·.migration.version)).Nodup ∧
      ∀ before d after, ds = before ++ d :: after → Accrues (s.after before) d := by
  refine ⟨?_, fun before d _ _ => Site.accrues (Site.nodup_after h) d⟩
  -- what was applied makes up the end of the records, and these have each version once
  have hversions : (s.after ds).versions.Nodup := Site.nodup_after h
  rw [Site.versions_after] at hversions
  exact (List.sublist_append_right _ _).nodup hversions

/-- A site with a database in which version 7 is recorded. -/
def oldSite : Site where
  files := ⟨[(["migrations"], .folder)]⟩
  target := { Rehearsal.start with databaseExists := true, records := [⟨7, "old", "", "ann", Rehearsal.epoch⟩] }

/-- A file is written, applied, changed and removed, with runs in between. -/
def oldSession : List Deed :=
  [.put ["migrations", "1_a.sql"] (.file "SELECT 1".toUTF8), .migrate firstRun "migrations",
    .put ["migrations", "1_a.sql"] (.file "SELECT 2".toUTF8), .migrate firstRun "migrations",
    .migrate { firstRun with drift := .warn } "migrations", .remove ["migrations", "1_a.sql"]]

theorem session_recorded_once_old :
    oldSite.versions.Nodup ∧ ((oldSite.history oldSession).map (·.migration.version)).Nodup ∧
      ∀ before d after, oldSession = before ++ d :: after → Accrues (oldSite.after before) d :=
  have hdistinct : oldSite.versions.Nodup := by decide
  ⟨hdistinct, session_recorded_once oldSite oldSession hdistinct⟩

end SchemaMigration
