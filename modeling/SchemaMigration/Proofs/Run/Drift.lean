import SchemaMigration.Proofs.History.Retouched
import SchemaMigration.Proofs.Run.Entered

/-!
# Runs over changed files

`Refuses`       : a run has ended at the lowest drifted version and has applied nothing.
`SameButDrift`  : two runs have done the same, and only the drifted versions that they report differ.
`migrate_drift` : a run refuses drifted versions if it is to, and else their texts have no influence on it.

Between the comparison and the pending migrations a run looks at the drifted ones once. What it applies comes from the
pending migrations alone, and these are the same whatever the texts of the drifted files are.
-/

namespace SchemaMigration

set_option autoImplicit false

open Run (Played reportOf settled)

/-! ## Vocabulary -/

/-- The versions of the drifted migrations of a set, in ascending order. -/
structure ListsDrifted (set : MigrationSet) (records : List Record) (vs : List Version) : Prop where
  ascending : vs.Pairwise (· < ·)
  mem : ∀ v, v ∈ vs ↔ ∃ m ∈ set.toList, m.version = v ∧ m.Drifts records

/-- A run has ended at the lowest drifted version and has applied nothing. -/
structure Refuses (s : Rehearsal) (set : MigrationSet) (played : Played Rehearsal Report) : Prop where
  result : ∃ m ∈ set.toList, m.Drifts s.records ∧
    (∀ x ∈ set.toList, x.Drifts s.records → m.version ≤ x.version) ∧
    played.result = .error (.checksumMismatch m.version m.name)
  calls : ∀ c ∈ played.calls, c.isApply = false
  records : played.state.records = s.records

/-- Two runs have applied the same, left the same records and ended the same way, but that they may have seen different
versions drifted. -/
structure SameButDrift (p q : Played Rehearsal Report) (vs ws : List Version) : Prop where
  calls : p.calls.filter Call.isApply = q.calls.filter Call.isApply
  records : p.state.records = q.state.records
  result : (∃ f, p.result = .error f ∧ q.result = .error f) ∨
    ∃ report : Report, p.result = .ok { report with drifted := vs } ∧ q.result = .ok { report with drifted := ws }

/-! ## Drifted migrations -/

section

variable {set : MigrationSet} {records : List Record}

theorem mem_drifted {m : Migration} : m ∈ (Diff.of set records).drifted ↔ m ∈ set.toList ∧ m.Drifts records := by
  rw [Diff.of, List.mem_filter, isDrifted_iff, Migration.Drifts]

theorem listsDrifted (set : MigrationSet) (records : List Record) :
    ListsDrifted set records ((Diff.of set records).drifted.map (·.version)) where
  ascending := ascending_versions _
  mem v := by
    simp only [List.mem_map, mem_drifted]
    constructor
    · rintro ⟨m, ⟨hm, hdrifts⟩, hversion⟩
      exact ⟨m, hm, hversion, hdrifts⟩
    · rintro ⟨m, hm, hversion, hdrifts⟩
      exact ⟨m, ⟨hm, hdrifts⟩, hversion⟩

/-- The first of the drifted migrations has the lowest version. -/
theorem exists_lowest_drifted (h : ∃ m ∈ set.toList, m.Drifts records) :
    ∃ m rest, (Diff.of set records).drifted = m :: rest ∧ m ∈ set.toList ∧ m.Drifts records ∧
      ∀ x ∈ set.toList, x.Drifts records → m.version ≤ x.version := by
  cases hdrifted : (Diff.of set records).drifted with
  | nil =>
    obtain ⟨m, hm⟩ := h
    exact absurd (hdrifted ▸ mem_drifted.2 hm) List.not_mem_nil
  | cons m rest =>
    obtain ⟨hm, hdrifts⟩ := mem_drifted.1 (hdrifted ▸ List.mem_cons_self)
    refine ⟨m, rest, rfl, hm, hdrifts, fun x hx hxdrifts => ?_⟩
    have hascending : Ascending (Diff.of set records).drifted := set.ascending.filter _
    rw [hdrifted] at hascending
    obtain rfl | hrest := List.mem_cons.1 (hdrifted ▸ mem_drifted.2 ⟨hx, hxdrifts⟩ : x ∈ m :: rest)
    · exact UInt64.le_refl _
    · exact UInt64.le_of_lt ((List.pairwise_cons.1 hascending).1 x hrest)

end

/-! ## What the work depends on -/

section

variable {o : RunOptions} {folder : Folder} {s : Rehearsal} {set : MigrationSet}

theorem Run.applyOne_options (o : RunOptions) (policy : DriftPolicy) (holder : String) (m : Migration) :
    applyOne { o with drift := policy, holder } m = applyOne o m := by
  unfold applyOne
  refine bind_congr fun statements => bind_congr fun answer => ?_
  cases answer <;> rfl

theorem Run.applyAll_options (o : RunOptions) (policy : DriftPolicy) (holder : String) (ms : List Migration) :
    applyAll { o with drift := policy, holder } ms = applyAll o ms := by
  induction ms with
  | nil => rfl
  | cons m ms ih => rw [applyAll, applyAll, ih, applyOne_options]

/-- Applying a migration does not look at the lock. -/
theorem Run.play_applyOne_relocked (o : RunOptions) (m : Migration) (s : Rehearsal) (lock : Option String) :
    (applyOne o m).play Rehearsal.answer { s with lockedBy := lock } =
      let p := (applyOne o m).play Rehearsal.answer s
      { p with state := { p.state with lockedBy := lock } } := by
  cases hp : m.prepare o.severalStatements with
  | error f => simp only [play_applyOne_unprepared o hp]
  | ok statements =>
    cases hf : s.fails statements with
    | true =>
      obtain ⟨f, happly, hplay⟩ := play_applyOne_failed o hp hf
      obtain ⟨g, happly', hplay'⟩ := play_applyOne_failed o (s := { s with lockedBy := lock }) hp hf
      obtain ⟨-, rfl⟩ := Rehearsal.apply_eq_error.1 happly
      obtain ⟨-, rfl⟩ := Rehearsal.apply_eq_error.1 happly'
      rw [hplay, hplay']
    | false =>
      rw [play_applyOne_applied o hp hf, play_applyOne_applied o (s := { s with lockedBy := lock }) hp hf]
      rfl

theorem Run.play_applyAll_relocked (o : RunOptions) (ms : List Migration) (s : Rehearsal) (lock : Option String) :
    (applyAll o ms).play Rehearsal.answer { s with lockedBy := lock } =
      let p := (applyAll o ms).play Rehearsal.answer s
      { p with state := { p.state with lockedBy := lock } } := by
  induction ms generalizing s with
  | nil => rfl
  | cons m ms ih =>
    rw [applyAll, play_bind, play_bind, play_applyOne_relocked]
    obtain ⟨result, t, calls, events⟩ := (applyOne o m).play Rehearsal.answer s
    cases result with
    | error f => rfl
    | ok r =>
      simp only [andThen_ok, play_bind, ih]
      cases hrest : ((applyAll o ms).play Rehearsal.answer t).result <;> simp [Played.andThen, hrest]

/-- Whether the lock is released depends only on what the rehearsal was told. -/
theorem Rehearsal.answer_unlock_fst (holder : String) (s : Rehearsal) :
    (answer (.unlock holder) s).1 = (s.failure? .unlock).elim (.ok ()) fun text => .error (.database text) := by
  cases h : s.failure? .unlock with
  | none =>
    rw [answer_of_silent rfl h]
    rfl
  | some text =>
    rw [answer_of_told rfl h]
    rfl

theorem Run.filter_isApply_openingCalls (s : Rehearsal) : (openingCalls s).filter Call.isApply = [] := by
  rw [openingCalls]
  cases s.databaseExists <;> rfl

theorem Run.play_applyAll_failures (o : RunOptions) (ms : List Migration) (s : Rehearsal) :
    ((applyAll o ms).play Rehearsal.answer s).state.failures = s.failures :=
  Rehearsal.serves_failures (serves_transcript (applyAll o ms) Rehearsal.answer s)

/-! ## Runs that refuse -/

theorem refuses (henters : Enters o s) (hloads : MigrationSet.load folder = .ok set)
    (hreads : s.failure? .appliedRecords = none) (hdrifts : ∃ m ∈ set.toList, m.Drifts s.records)
    (hpolicy : o.drift = .fail) : Refuses s set ((Run.migrate o folder).play Rehearsal.answer s) := by
  obtain ⟨m, rest, hdrifted, hm, hmdrifts, hlowest⟩ := exists_lowest_drifted hdrifts
  obtain ⟨_, hwork⟩ := Run.play_runPending_fails (s := s.lockedFor o.holder) hloads hreads hdrifted hpolicy
  obtain ⟨_, hplay⟩ := Run.play_migrate_of_enters folder henters
  simp only [hwork] at hplay
  rw [hplay]
  refine ⟨⟨m, hm, hmdrifts, hlowest, rfl⟩, fun c hc => ?_, ?_⟩
  · simp only [List.mem_append, List.mem_cons, List.not_mem_nil, or_false] at hc
    obtain hc | rfl | rfl | rfl | rfl := hc
    · have hnone := List.filter_eq_nil_iff.1 (Run.filter_isApply_openingCalls s) c hc
      simpa using hnone
    all_goals rfl
  · exact (Rehearsal.keeps_answer (.unlock o.holder) (s.lockedFor o.holder)).records rfl

/-! ## Runs that go on -/

/-- What a run that lets changed files pass does, and how it ends. -/
theorem play_migrate_applies (henters : Enters o s) (hloads : MigrationSet.load folder = .ok set)
    (hreads : s.failure? .appliedRecords = none) (hdrift : (Diff.of set s.records).drifted = [] ∨ o.drift = .warn) :
    let p := (Run.applyAll o (set.unrecorded s.records)).play Rehearsal.answer (s.lockedFor o.holder)
    let played := (Run.migrate o folder).play Rehearsal.answer s
    played.result = settled (p.result.map (reportOf (Diff.of set s.records)))
        ((s.failure? .unlock).elim (.ok ()) fun text => .error (.database text)) ∧
      played.calls.filter Call.isApply = p.calls.filter Call.isApply ∧ played.state.records = p.state.records := by
  intro p played
  obtain ⟨_, hwork⟩ := Run.play_runPending_applies (s := s.lockedFor o.holder) hloads hreads hdrift
  obtain ⟨_, hplay⟩ := Run.play_migrate_of_enters folder henters
  simp only [hwork] at hplay
  have hfailures : p.state.failure? .unlock = s.failure? .unlock := by
    rw [Rehearsal.failure?, Run.play_applyAll_failures]
    rfl
  have hreleased : (Rehearsal.answer (.unlock o.holder) p.state).1 = _ := Rehearsal.answer_unlock_fst o.holder p.state
  rw [hfailures] at hreleased
  simp only [played, hplay]
  refine ⟨?_, ?_, ?_⟩
  · rw [← hreleased]
    rfl
  · simp [Run.filter_isApply_openingCalls, Call.isApply, p]
    rfl
  · exact (Rehearsal.keeps_answer (.unlock o.holder) p.state).records rfl

/-- Runs on folders that differ in the texts of drifted versions do the same. -/
theorem sameButDrift {folder' : Folder} {set' : MigrationSet} {suits : Migration → Prop} (henters : Enters o s)
    (hloads : MigrationSet.load folder = .ok set) (hreads : s.failure? .appliedRecords = none)
    (hwarn : o.drift = .warn) (hloads' : MigrationSet.load folder' = .ok set')
    (hset : MigrationSet.Retouched s.records suits set set') (policy : DriftPolicy) (holder : String)
    (hpolicy : (Diff.of set' s.records).drifted = [] ∨ policy = .warn) :
    SameButDrift ((Run.migrate o folder).play Rehearsal.answer s)
      ((Run.migrate { o with drift := policy, holder } folder').play Rehearsal.answer s)
      ((Diff.of set s.records).drifted.map (·.version)) ((Diff.of set' s.records).drifted.map (·.version)) := by
  obtain ⟨hresult, hcalls, hrecords⟩ := play_migrate_applies henters hloads hreads (.inr hwarn)
  have henters' : Enters { o with drift := policy, holder } s := ⟨henters.asks, henters.creates, henters.connects,
    henters.ensures, henters.locks, henters.free⟩
  obtain ⟨hresult', hcalls', hrecords'⟩ := play_migrate_applies henters' hloads' hreads hpolicy
  -- the second run applies the same migrations to a rehearsal that only its lock tells from that of the first
  have hdiff := diff_retouched hset
  have hpending : set'.unrecorded s.records = set.unrecorded s.records := by
    rw [← pending_eq, ← pending_eq, hdiff]
  have hlocked : s.lockedFor holder = { s.lockedFor o.holder with lockedBy := some holder } := rfl
  simp only [hpending, Run.applyAll_options, hlocked, Run.play_applyAll_relocked] at hresult' hcalls' hrecords'
  refine ⟨hcalls.trans hcalls'.symm, hrecords.trans hrecords'.symm, ?_⟩
  rw [hresult, hresult']
  cases ((Run.applyAll o (set.unrecorded s.records)).play Rehearsal.answer (s.lockedFor o.holder)).result with
  | error f => exact .inl ⟨f, rfl, rfl⟩
  | ok applied =>
    cases s.failure? .unlock with
    | some text => exact .inl ⟨_, rfl, rfl⟩
    | none =>
      refine .inr ⟨reportOf (Diff.of set s.records) applied, rfl, ?_⟩
      rw [hdiff]
      rfl

/-- A run that gets the lock and reads files and records refuses drifted versions if it is to. Else it does what it would
do if the recorded texts were restored, under either policy, and what it would do with any other texts. -/
theorem migrate_drift (o : RunOptions) (folder : Folder) (s : Rehearsal) (set : MigrationSet) (henters : Enters o s)
    (hloads : MigrationSet.load folder = .ok set) (hreads : s.failure? .appliedRecords = none)
    (hdrifts : ∃ m ∈ set.toList, m.Drifts s.records) :
    (o.drift = .fail → Refuses s set ((Run.migrate o folder).play Rehearsal.answer s)) ∧
      (o.drift = .warn → ∃ vs, ListsDrifted set s.records vs ∧ ∀ folder' holder,
        (folder.Retouched s.records (Migration.Matches s.records) folder' → ∀ policy,
          SameButDrift ((Run.migrate o folder).play Rehearsal.answer s)
            ((Run.migrate { o with drift := policy, holder } folder').play Rehearsal.answer s) vs []) ∧
        (folder.Retouched s.records (fun _ => True) folder' →
          ∃ set' ws, MigrationSet.load folder' = .ok set' ∧ ListsDrifted set' s.records ws ∧
            SameButDrift ((Run.migrate o folder).play Rehearsal.answer s)
              ((Run.migrate { o with holder } folder').play Rehearsal.answer s) vs ws)) := by
  refine ⟨refuses henters hloads hreads hdrifts, fun hwarn => ⟨_, listsDrifted set s.records, ?_⟩⟩
  intro folder' holder
  constructor
  · intro hrestored policy
    obtain ⟨set', hloads', hset⟩ := MigrationSet.load_retouched hrestored hloads
    have hnone : (Diff.of set' s.records).drifted = [] := filter_isDrifted_retouched hset
    have hsame := sameButDrift henters hloads hreads hwarn hloads' hset policy holder (.inl hnone)
    rwa [hnone] at hsame
  · intro hretouched
    obtain ⟨set', hloads', hset⟩ := MigrationSet.load_retouched hretouched hloads
    have hsame := sameButDrift henters hloads hreads hwarn hloads' hset o.drift holder (.inr hwarn)
    exact ⟨set', _, hloads', listsDrifted set' s.records, hsame⟩

end

/-! ## A run over a file that became malformed -/

def appliedMigration : Migration := ⟨1, "a", "1_a.sql", "SELECT 1"⟩

def malformedMigration : Migration := ⟨1, "a", "1_a.sql", "SELECT 1 /*"⟩

def laterMigration : Migration := ⟨2, "b", "2_b.sql", "SELECT 2"⟩

/-- The folder with this text in the file of version 1. -/
def folderWith (text : String) : Folder :=
  ⟨"migrations", some [⟨"2_b.sql", some "SELECT 2".toUTF8⟩, ⟨"1_a.sql", some text.toUTF8⟩]⟩

def malformedSet : MigrationSet := ⟨[malformedMigration, laterMigration], by simp [Ascending]; decide⟩

def appliedTarget : Rehearsal :=
  { Rehearsal.start with databaseExists := true, records := [appliedMigration.record "ann" Rehearsal.epoch] }

theorem enters_appliedTarget (o : RunOptions) : Enters o appliedTarget where
  asks := rfl
  creates := .inl rfl
  connects := rfl
  ensures := rfl
  locks := rfl
  free := rfl

theorem drifts_malformedMigration : malformedMigration.Drifts appliedTarget.records :=
  ⟨_, ⟨rfl, [], [], rfl, by simp⟩, by decide +kernel⟩

theorem retouched_malformed :
    (folderWith "SELECT 1 /*").Retouched appliedTarget.records (Migration.Matches appliedTarget.records)
      (folderWith "SELECT 1") := by
  refine ⟨_, _, rfl, rfl, .cons (.kept fun m hm => ?_) (.cons ?_ .nil)⟩
  · rintro ⟨r, hlast, -⟩
    have hlater : Entry.Has ⟨"2_b.sql", some "SELECT 2".toUTF8⟩ laterMigration := ⟨_, rfl, rfl⟩
    obtain rfl := hlater.unique hm
    have hnone : lastRecord? appliedTarget.records laterMigration.version = none := by decide
    exact absurd (hnone.symm.trans (lastRecord?_iff.2 hlast)) (by simp)
  · exact .rewritten rfl ⟨_, rfl, rfl⟩ drifts_malformedMigration ⟨_, rfl, rfl⟩ ⟨_, ⟨rfl, [], [], rfl, by simp⟩, rfl⟩

theorem migrate_drift_malformed :
    Enters firstRun appliedTarget ∧ MigrationSet.load (folderWith "SELECT 1 /*") = .ok malformedSet ∧
      appliedTarget.failure? .appliedRecords = none ∧
      (∃ m ∈ malformedSet.toList, m.Drifts appliedTarget.records) ∧
      Refuses appliedTarget malformedSet
        ((Run.migrate firstRun (folderWith "SELECT 1 /*")).play Rehearsal.answer appliedTarget) ∧
      ∃ vs, ListsDrifted malformedSet appliedTarget.records vs ∧
        SameButDrift
          ((Run.migrate { firstRun with drift := .warn } (folderWith "SELECT 1 /*")).play Rehearsal.answer appliedTarget)
          ((Run.migrate { firstRun with drift := .fail, holder := "again" } (folderWith "SELECT 1")).play
            Rehearsal.answer appliedTarget) vs [] := by
  have hloads : MigrationSet.load (folderWith "SELECT 1 /*") = .ok malformedSet := rfl
  have hdrifts : ∃ m ∈ malformedSet.toList, m.Drifts appliedTarget.records :=
    ⟨malformedMigration, List.mem_cons_self, drifts_malformedMigration⟩
  obtain ⟨vs, hvs, hsame⟩ := (migrate_drift { firstRun with drift := .warn } _ appliedTarget malformedSet
    (enters_appliedTarget _) hloads rfl hdrifts).2 rfl
  exact ⟨enters_appliedTarget _, hloads, rfl, hdrifts,
    (migrate_drift firstRun _ appliedTarget malformedSet (enters_appliedTarget _) hloads rfl hdrifts).1 rfl,
    vs, hvs, (hsame _ "again").1 retouched_malformed .fail⟩

end SchemaMigration
