import SchemaMigration.Proofs.Files
import SchemaMigration.Proofs.History.Status
import SchemaMigration.Proofs.Run.Session

/-!
# The status of a site

`Rehearsal.Anchored` : records are there only in a database that exists.
`TellsTruth`         : what a status says of the files there are now and of all that was applied before.
`status_tellsTruth`  : every status does so, whatever happened in the session before.

A status reads the records, and those of a session that began without any are its history. Without a database it reads
none, and then there are none.
-/

namespace SchemaMigration

set_option autoImplicit false

open Run (Course Looks Migrates Opens Serves)

/-! ## Records and their database -/

/-- Records are there only in a database that exists. -/
def Rehearsal.Anchored (s : Rehearsal) : Prop := s.records ≠ [] → s.databaseExists = true

section

variable {o : RunOptions} {folder : Folder} {t : List Answered} {s u : Rehearsal}

theorem Run.Opens.databaseExists (h : Opens o t (.ok ())) (hs : Serves Rehearsal.answer s t u) :
    u.databaseExists = true := by
  cases h with
  | found =>
    rcases hs with _ | ⟨hanswer, hrest⟩
    have hexists : s.databaseExists = true := (Rehearsal.answer_databaseExists hanswer).symm
    exact Rehearsal.serves_databaseExists (.cons hanswer hrest) hexists
  | created =>
    rcases hs with _ | ⟨-, _ | ⟨hanswer, hrest⟩⟩
    refine Rehearsal.serves_databaseExists hrest ?_
    rw [Rehearsal.answer_eq_perform hanswer]
    rfl

/-- A migrating run that has more to do than to open the database has one. -/
theorem Run.Migrates.databaseExists {e : Except Fault Report} (h : Migrates o folder t e)
    (hs : Serves Rehearsal.answer s t u) {x : Answered} (hx : x ∈ t) (hwork : x.call.isOpening = false) :
    u.databaseExists = true := by
  obtain ⟨opening, rest, opened, rfl, hopens, -, hfault⟩ := h.split
  have hrest : x ∈ rest := (List.mem_append.1 hx).resolve_left fun hx => by
    simp [hopens.isOpening x hx] at hwork
  obtain ⟨v, hopening, hserves⟩ := Run.serves_append.1 hs
  cases opened with
  | error f => simp [(hfault f rfl).1] at hrest
  | ok _ => exact Rehearsal.serves_databaseExists hserves (hopens.databaseExists hopening)

/-- A status that succeeds compares the files with the records there are. -/
theorem status_eq {entries : List StatusEntry} (hs : s.Anchored)
    (h : ((Run.status folder).play Rehearsal.answer s).result = .ok entries) :
    ∃ set, MigrationSet.load folder = .ok set ∧ entries = statusEntries set s.records := by
  have hcourse := Run.course_transcript (Run.status folder) Rehearsal.answer s
  have hserves := Run.serves_transcript (Run.status folder) Rehearsal.answer s
  rw [h] at hcourse
  obtain ⟨planned, hplan, hentries⟩ := Run.course_status hcourse
  obtain ⟨f, -, -, rfl⟩ | ⟨set, found, hload, hlooks, rfl⟩ := Run.course_plan hplan
  · simp [Except.map] at hentries
  refine ⟨set, hload, ?_⟩
  generalize (Run.status folder).transcript Rehearsal.answer s = t at hlooks hserves
  cases hlooks with
  | unasked | unconnected | unread => simp [Except.map] at hentries
  | absent =>
    -- no records are looked at, and there are none to look at
    rcases hserves with _ | ⟨hanswer, -⟩
    have hnone : s.databaseExists = false := (Rehearsal.answer_databaseExists hanswer).symm
    have hrecords : s.records = [] := by
      by_contra hrecords
      simp [hs hrecords] at hnone
    rw [hrecords]
    exact Except.ok.inj hentries
  | read records =>
    rcases hserves with _ | ⟨hexists, _ | ⟨hconnect, _ | ⟨hanswer, -⟩⟩⟩
    have hkept := Rehearsal.serves_records (.cons hexists (.cons hconnect (.nil _)))
    have hrecords : records = s.records :=
      (Rehearsal.answer_appliedRecords hanswer).trans (hkept.trans (List.append_nil _))
    rw [← hrecords]
    exact Except.ok.inj hentries

end

namespace Site

variable {s : Site} {d : Deed} {ds : List Deed}

theorem databaseExists_act (hd : d ≠ .setDatabase false) (h : s.target.databaseExists = true) :
    (s.act d).target.databaseExists = true := by
  cases d with
  | migrate | plan | status | forceUnlock => exact Rehearsal.serves_databaseExists (Run.serves_transcript _ _ _) h
  | setDatabase there =>
    cases there with
    | true => rfl
    | false => exact absurd rfl hd
  | put | remove | setLock | setFailures | setPoison => exact h

/-- A deed that applies something leaves a database. -/
theorem databaseExists_of_mem {a : Application} (h : a ∈ applications (s.calls d)) :
    (s.act d).target.databaseExists = true := by
  obtain ⟨⟨o, path, rfl, -⟩, -⟩ := mem_due (mem_due_of_mem h)
  obtain ⟨statements, user, hx⟩ := mem_applications.1 h
  exact (Run.course_migrate (Run.course_transcript _ _ _)).databaseExists (Run.serves_transcript _ _ _) hx rfl

theorem anchored_act (hd : d ≠ .setDatabase false) (h : s.target.Anchored) : (s.act d).target.Anchored := by
  intro hrecords
  rw [records_act] at hrecords
  cases happlied : applications (s.calls d) with
  | nil =>
    rw [happlied, List.map_nil, List.append_nil] at hrecords
    exact databaseExists_act hd (h hrecords)
  | cons a as => exact databaseExists_of_mem (happlied ▸ List.mem_cons_self)

theorem anchored_after (hds : .setDatabase false ∉ ds) (h : s.target.Anchored) : (s.after ds).target.Anchored := by
  induction ds generalizing s with
  | nil => exact h
  | cons d ds ih =>
    rw [List.mem_cons, not_or] at hds
    exact ih hds.2 (anchored_act (Ne.symm hds.1) h)

end Site

/-! ## What was applied -/

/-- No version is applied twice, and each application is recorded with what its migration says. -/
structure Chronicled (history : List Application) : Prop where
  distinct : (history.map (·.migration.version)).Nodup
  recorded : ∀ a ∈ history, ∃ user time, a.record = a.migration.record user time

/-- The application of a version. -/
def applicationOf? (history : List Application) (v : Version) : Option Application :=
  history.find? (·.migration.version == v)

section

variable {history : List Application} {v : Version}

theorem applicationOf?_eq_some {a : Application} (h : Chronicled history) :
    applicationOf? history v = some a ↔ a ∈ history ∧ a.migration.version = v :=
  find?_eq_some_of_nodup h.distinct

theorem applicationOf?_eq_none : applicationOf? history v = none ↔ ∀ a ∈ history, a.migration.version ≠ v := by
  simp [applicationOf?]

/-- The record that counts for a version is that of its application. -/
theorem lastRecord?_eq (h : Chronicled history) :
    lastRecord? (history.map (·.record)) v = (applicationOf? history v).map (·.record) := by
  have hversion (a : Application) (ha : a ∈ history) : a.record.version = a.migration.version := by
    obtain ⟨user, time, hrecord⟩ := h.recorded a ha
    rw [hrecord]
    rfl
  have hdistinct : ((history.map (·.record)).reverse.map (·.version)).Nodup := by
    rw [List.map_reverse, List.nodup_reverse, map_version_record h.recorded]
    exact h.distinct
  ext r
  rw [lastRecord?, find?_eq_some_of_nodup hdistinct, List.mem_reverse, Option.map_eq_some_iff]
  constructor
  · rintro ⟨hr, rfl⟩
    obtain ⟨a, ha, rfl⟩ := List.mem_map.1 hr
    exact ⟨a, (applicationOf?_eq_some h).2 ⟨ha, (hversion a ha).symm⟩, rfl⟩
  · rintro ⟨a, happ, rfl⟩
    obtain ⟨ha, rfl⟩ := (applicationOf?_eq_some h).1 happ
    exact ⟨List.mem_map_of_mem ha, hversion a ha⟩

end

/-! ## The truth of a status -/

/-- Where a version stands, by its application and its file. -/
def standing : Option Application → Option Migration → State
  | none, _ => .pending
  | some a, none => .missing a.record.appliedAt
  | some a, some m =>
    if m.checksum = a.migration.checksum then .applied a.record.appliedAt else .drifted a.record.appliedAt

/-- What a state says of the application and the file of a version. -/
def State.Says (app : Option Application) (file : Option Migration) : State → Prop
  | pending => app = none
  | applied since =>
    ∃ a, app = some a ∧ a.record.appliedAt = since ∧ ∃ m, file = some m ∧ m.checksum = a.migration.checksum
  | drifted since =>
    ∃ a, app = some a ∧ a.record.appliedAt = since ∧ ∃ m, file = some m ∧ m.checksum ≠ a.migration.checksum
  | missing since => ∃ a, app = some a ∧ a.record.appliedAt = since ∧ file = none

theorem standing_eq_iff {app : Option Application} {file : Option Migration} {state : State} :
    standing app file = state ↔ state.Says app file := by
  cases app with
  | none => cases state <;> simp [standing, State.Says]
  | some a =>
    cases file with
    | none => cases state <;> simp [standing, State.Says]
    | some m =>
      by_cases hsame : m.checksum = a.migration.checksum <;> cases state <;> simp [standing, State.Says, hsame]

/-- What a status says of the files in a folder and of all that was applied. -/
structure TellsTruth (folder : Folder) (history : List Application) (entries : List StatusEntry) : Prop where
  ascending : AscendingEntries entries
  /-- Each version with a file or an application has an entry. -/
  listed : ∀ v, (∃ y ∈ entries, y.version = v) ↔
    (∃ m, folder.Holds m ∧ m.version = v) ∨ ∃ a ∈ history, a.migration.version = v
  pending : ∀ y ∈ entries, y.state = .pending ↔
    (∃ m, folder.Holds m ∧ m.version = y.version) ∧ ∀ a ∈ history, a.migration.version ≠ y.version
  applied : ∀ y ∈ entries, ∀ since, y.state = .applied since ↔
    ∃ a ∈ history, a.migration.version = y.version ∧ a.record.appliedAt = since ∧
      ∃ m, folder.Holds m ∧ m.version = y.version ∧ m.checksum = a.migration.checksum
  drifted : ∀ y ∈ entries, ∀ since, y.state = .drifted since ↔
    ∃ a ∈ history, a.migration.version = y.version ∧ a.record.appliedAt = since ∧
      ∃ m, folder.Holds m ∧ m.version = y.version ∧ m.checksum ≠ a.migration.checksum
  missing : ∀ y ∈ entries, ∀ since, y.state = .missing since ↔
    ∃ a ∈ history, a.migration.version = y.version ∧ a.record.appliedAt = since ∧
      ∀ m, folder.Holds m → m.version ≠ y.version
  /-- An applied version keeps the name under which it was applied. -/
  named : ∀ y ∈ entries, ∀ a ∈ history, a.migration.version = y.version → y.name = a.migration.name

section

variable {folder : Folder} {set : MigrationSet} {history : List Application} {y : StatusEntry}

theorem Application.entry_record {a : Application} (h : ∃ user time, a.record = a.migration.record user time) :
    a.record.entry set =
      ⟨a.migration.version, a.migration.name, standing (some a) (set.get? a.migration.version)⟩ := by
  obtain ⟨m, r⟩ := a
  obtain ⟨user, time, hr⟩ := h
  obtain rfl : r = m.record user time := hr
  rw [Record.entry]
  change (⟨m.version, m.name, _⟩ : StatusEntry) = ⟨m.version, m.name, _⟩
  cases hfile : set.get? m.version <;> simp [standing, hfile, Migration.record]

/-- The entries are those of the applications, and of the files whose versions were not applied. -/
theorem mem_entries (h : Chronicled history) :
    y ∈ statusEntries set (history.map (·.record)) ↔
      match applicationOf? history y.version with
      | some a => y = ⟨y.version, a.migration.name, standing (some a) (set.get? y.version)⟩
      | none => ∃ m, set.get? y.version = some m ∧ y = m.entry := by
  rw [mem_statusEntries, lastRecord?_eq h]
  cases happ : applicationOf? history y.version with
  | none => rfl
  | some a =>
    obtain ⟨ha, hversion⟩ := (applicationOf?_eq_some h).1 happ
    rw [← hversion]
    simp only [Option.map_some, Application.entry_record (h.recorded a ha)]

/-- A version that was not applied is there because of its file. -/
theorem file_of_mem (h : Chronicled history) (hy : y ∈ statusEntries set (history.map (·.record)))
    (hnone : applicationOf? history y.version = none) : ∃ m, set.get? y.version = some m ∧ y = m.entry := by
  have hentry := (mem_entries h).1 hy
  simpa only [hnone] using hentry

theorem state_of_mem (h : Chronicled history) (hy : y ∈ statusEntries set (history.map (·.record))) :
    y.state = standing (applicationOf? history y.version) (set.get? y.version) := by
  cases happ : applicationOf? history y.version with
  | some a =>
    have hentry := (mem_entries h).1 hy
    simp only [happ] at hentry
    exact congrArg StatusEntry.state hentry
  | none =>
    obtain ⟨m, -, hentry⟩ := file_of_mem h hy happ
    exact congrArg StatusEntry.state hentry

theorem name_of_mem (h : Chronicled history) (hy : y ∈ statusEntries set (history.map (·.record))) {a : Application}
    (happ : applicationOf? history y.version = some a) : y.name = a.migration.name := by
  have hentry := (mem_entries h).1 hy
  simp only [happ] at hentry
  exact congrArg StatusEntry.name hentry

theorem exists_mem_entries (h : Chronicled history) (v : Version) :
    (∃ y ∈ statusEntries set (history.map (·.record)), y.version = v) ↔
      (∃ m, set.get? v = some m) ∨ ∃ a, applicationOf? history v = some a := by
  constructor
  · rintro ⟨y, hy, rfl⟩
    cases happ : applicationOf? history y.version with
    | some a => exact .inr ⟨a, rfl⟩
    | none =>
      obtain ⟨m, hm, -⟩ := file_of_mem h hy happ
      exact .inl ⟨m, hm⟩
  · intro hv
    cases happ : applicationOf? history v with
    | some a =>
      refine ⟨⟨v, a.migration.name, standing (some a) (set.get? v)⟩, (mem_entries h).2 ?_, rfl⟩
      simp only [happ]
    | none =>
      obtain ⟨m, hm⟩ := hv.resolve_right (by simp [happ])
      obtain rfl := (MigrationSet.get?_eq_some.1 hm).2
      refine ⟨m.entry, (mem_entries h).2 ?_, rfl⟩
      simp only [Migration.version_entry, happ]
      exact ⟨m, hm, rfl⟩

theorem tellsTruth_statusEntries (hload : MigrationSet.load folder = .ok set) (h : Chronicled history) :
    TellsTruth folder history (statusEntries set (history.map (·.record))) := by
  have hfile (v : Version) (m : Migration) : folder.Holds m ∧ m.version = v ↔ set.get? v = some m := by
    rw [MigrationSet.get?_eq_some, MigrationSet.mem_load hload]
  have hnofile (v : Version) : (∀ m, folder.Holds m → m.version ≠ v) ↔ set.get? v = none := by
    simp only [Option.eq_none_iff_forall_ne_some, ne_eq, ← hfile, not_and]
  have happ (v : Version) (a : Application) :
      a ∈ history ∧ a.migration.version = v ↔ applicationOf? history v = some a := (applicationOf?_eq_some h).symm
  constructor
  case ascending => exact ascending_statusEntries set _
  case listed =>
    intro v
    simp only [hfile, happ]
    exact exists_mem_entries h v
  case pending =>
    intro y hy
    simp only [hfile, ← applicationOf?_eq_none, state_of_mem h hy, standing_eq_iff, State.Says]
    refine (and_iff_right_of_imp fun hnone => ?_).symm
    obtain ⟨m, hm, -⟩ := file_of_mem h hy hnone
    exact ⟨m, hm⟩
  case applied =>
    intro y hy since
    simp only [← and_assoc, hfile, happ]
    simp only [state_of_mem h hy, standing_eq_iff, State.Says, and_assoc]
  case drifted =>
    intro y hy since
    simp only [← and_assoc, hfile, happ]
    simp only [state_of_mem h hy, standing_eq_iff, State.Says, and_assoc]
  case missing =>
    intro y hy since
    simp only [← and_assoc, hnofile, happ]
    simp only [state_of_mem h hy, standing_eq_iff, State.Says, and_assoc]
  case named =>
    intro y hy a ha hversion
    exact name_of_mem h hy ((happ _ _).1 ⟨ha, hversion⟩)

end

/-- Every status of a site that began without records tells the truth, if nobody removed the database. -/
theorem status_tellsTruth (s : Site) (ds : List Deed) (path : String) (entries : List StatusEntry)
    (hempty : s.target.records = []) (hkept : .setDatabase false ∉ ds)
    (hstatus : ((Run.status ((s.after ds).folder path)).play Rehearsal.answer (s.after ds).target).result =
      .ok entries) :
    TellsTruth ((s.after ds).folder path) (s.history ds) entries := by
  have hanchored : s.target.Anchored := fun hrecords => absurd hempty hrecords
  have hrecords : (s.after ds).target.records = (s.history ds).map (·.record) := by
    rw [Site.records_after, hempty, List.nil_append]
  have hversions : (s.after ds).versions.Nodup := Site.nodup_after (by simp [Site.versions, hempty])
  rw [Site.versions_after, Site.versions, hempty] at hversions
  obtain ⟨set, hload, rfl⟩ := status_eq (Site.anchored_after hkept hanchored) hstatus
  rw [hrecords]
  exact tellsTruth_statusEntries hload ⟨hversions, fun a ha => Site.record_of_mem_history ha⟩

/-! ## The status after one run -/

def newSite : Site := ⟨⟨[(["1_a.sql"], .file "SELECT 1".toUTF8)]⟩, .start⟩

/-- What the first run leaves of the target. -/
def migratedTarget : Rehearsal where
  databaseExists := true
  lockedBy := none
  records := [(⟨1, "a", "1_a.sql", "SELECT 1"⟩ : Migration).record "ann" (Rehearsal.epoch.addSeconds 1)]
  failures := []
  poison := none
  applies := 1

theorem folder_newSite : newSite.folder "/" = ⟨"/", some [⟨"1_a.sql", some "SELECT 1".toUTF8⟩]⟩ := by
  have hroot : newSite.files.resolve [] "/" = .ok [] := by
    rw [Files.resolve, Files.components_slash, if_neg (by decide), if_pos (by decide +kernel), Files.walk]
  rw [Site.folder, Files.folder, Files.list?, hroot]
  rfl

theorem after_newSite : newSite.after [.migrate firstRun "/"] = ⟨newSite.files, migratedTarget⟩ := by
  rw [Site.after, List.foldl_cons, List.foldl_nil, Site.act, folder_newSite]
  rfl

theorem status_newSite :
    ((Run.status ((newSite.after [.migrate firstRun "/"]).folder "/")).play Rehearsal.answer
      (newSite.after [.migrate firstRun "/"]).target).result =
      .ok [⟨1, "a", .applied (Rehearsal.epoch.addSeconds 1)⟩] := by
  rw [after_newSite]
  change ((Run.status (newSite.folder "/")).play Rehearsal.answer _).result = _
  rw [folder_newSite]
  decide +kernel

theorem status_tellsTruth_newSite :
    newSite.target.records = [] ∧ .setDatabase false ∉ [Deed.migrate firstRun "/"] ∧
      TellsTruth ((newSite.after [.migrate firstRun "/"]).folder "/") (newSite.history [.migrate firstRun "/"])
        [⟨1, "a", .applied (Rehearsal.epoch.addSeconds 1)⟩] :=
  ⟨rfl, by simp, status_tellsTruth newSite [.migrate firstRun "/"] "/" _ rfl (by simp) status_newSite⟩

end SchemaMigration
