import SchemaMigration.Proofs.Run.Course
import SchemaMigration.Proofs.Run.Pending

/-!
# The courses of the runs

`Opens`, `Applies`, `Works`, `Migrates` : the courses of a migrating run and of its parts, exit by exit.
`course_migrate`    : it has no others.
`underLock`         : what a run does once it has the lock.
`course_plan`, `course_status`, `course_forceUnlock` : the calls of the runs that migrate nothing.

Each constructor is one way to end: at the call that failed, or on the condition under which there is no more to do.
-/

namespace SchemaMigration.Run

set_option autoImplicit false

variable {o : RunOptions} {folder : Folder} {t : List Answered}

/-! ## Parts of a migrating run -/

/-- How a session on a database is opened. -/
inductive Opens (o : RunOptions) : List Answered → Except Fault Unit → Prop
  | unasked (f : Fault) : Opens o [⟨.databaseExists, .error f⟩] (.error f)
  | found (e : Except Fault Unit) : Opens o [⟨.databaseExists, .ok true⟩, ⟨.connect, e⟩] e
  | absent (h : o.createDatabase = false) :
      Opens o [⟨.databaseExists, .ok false⟩] (.error (.databaseMissing o.database))
  | uncreated (h : o.createDatabase = true) (f : Fault) :
      Opens o [⟨.databaseExists, .ok false⟩, ⟨.createDatabase, .error f⟩] (.error f)
  | created (h : o.createDatabase = true) (e : Except Fault Unit) :
      Opens o [⟨.databaseExists, .ok false⟩, ⟨.createDatabase, .ok ()⟩, ⟨.connect, e⟩] e

/-- How migrations are applied in order up to the first that is not. -/
inductive Applies (o : RunOptions) : List Migration → List Answered → Except Fault (List Record) → Prop
  | finished : Applies o [] [] (.ok [])
  | unprepared {m : Migration} {rest : List Migration} {f : Fault} (h : m.prepare o.severalStatements = .error f) :
      Applies o (m :: rest) [] (.error f)
  | failed {m : Migration} {rest : List Migration} {statements : List String}
      (h : m.prepare o.severalStatements = .ok statements) (f : Fault) :
      Applies o (m :: rest) [⟨.apply m statements o.user, .error f⟩] (.error f)
  | applied {m : Migration} {rest : List Migration} {statements : List String} {t : List Answered}
      {e : Except Fault (List Record)} (h : m.prepare o.severalStatements = .ok statements) (r : Record)
      (ht : Applies o rest t e) : Applies o (m :: rest) (⟨.apply m statements o.user, .ok r⟩ :: t) (e.map (r :: ·))

/-- The report of a run that found this difference and applied what was pending. -/
def reportOf (d : Diff) (applied : List Record) : Report :=
  { applied, skipped := d.skipped, drifted := d.drifted.map (·.version), missing := d.missing.map (·.version) }

/-- How the work under the lock goes. -/
inductive Works (o : RunOptions) (folder : Folder) : List Answered → Except Fault Report → Prop
  | unloaded {f : Fault} (h : MigrationSet.load folder = .error f) : Works o folder [] (.error f)
  | unread {set : MigrationSet} (h : MigrationSet.load folder = .ok set) (f : Fault) :
      Works o folder [⟨.appliedRecords, .error f⟩] (.error f)
  | drifted {set : MigrationSet} {records : List Record} {m : Migration} {rest : List Migration}
      (h : MigrationSet.load folder = .ok set) (hdrift : (Diff.of set records).drifted = m :: rest)
      (hfail : o.drift = .fail) :
      Works o folder [⟨.appliedRecords, .ok records⟩] (.error (.checksumMismatch m.version m.name))
  | applies {set : MigrationSet} {records : List Record} {t : List Answered} {e : Except Fault (List Record)}
      (h : MigrationSet.load folder = .ok set) (hdrift : (Diff.of set records).drifted = [] ∨ o.drift = .warn)
      (ht : Applies o (set.unrecorded records) t e) :
      Works o folder (⟨.appliedRecords, .ok records⟩ :: t) (e.map (reportOf (Diff.of set records)))

/-- The end of a run whose work and whose release of the lock ended so. -/
def settled (worked : Except Fault Report) (released : Except Fault Unit) : Except Fault Report :=
  match worked, released with
  | .ok report, .ok () => .ok report
  | .ok _, .error f => .error f
  | .error f, _ => .error f

/-- How a migrating run goes: it opens the database, takes the lock, works and releases the lock. -/
inductive Migrates (o : RunOptions) (folder : Folder) : List Answered → Except Fault Report → Prop
  | unopened {t : List Answered} {f : Fault} (h : Opens o t (.error f)) : Migrates o folder t (.error f)
  | unensured {t : List Answered} (h : Opens o t (.ok ())) (f : Fault) :
      Migrates o folder (t ++ [⟨.ensureBookkeeping, .error f⟩]) (.error f)
  | unlocked {t : List Answered} (h : Opens o t (.ok ())) (f : Fault) :
      Migrates o folder (t ++ [⟨.ensureBookkeeping, .ok ()⟩, ⟨.tryLock o.holder, .error f⟩]) (.error f)
  | refused {t : List Answered} (h : Opens o t (.ok ())) (other : String) :
      Migrates o folder (t ++ [⟨.ensureBookkeeping, .ok ()⟩, ⟨.tryLock o.holder, .ok (.heldBy other)⟩])
        (.error (.locked other))
  | locked {t u : List Answered} {worked : Except Fault Report} (h : Opens o t (.ok ()))
      (hu : Course (runPending o folder).run u worked) (released : Except Fault Unit) :
      Migrates o folder
        (t ++ ([⟨.ensureBookkeeping, .ok ()⟩, ⟨.tryLock o.holder, .ok .acquired⟩] ++
          (u ++ [⟨.unlock o.holder, released⟩])))
        (settled worked released)

/-! ## A migrating run has these courses -/

theorem course_openDatabase {e : Except Fault Unit} (h : Course (openDatabase o).run t e) : Opens o t e := by
  unfold openDatabase at h
  obtain ⟨g, rfl, rfl⟩ | ⟨found, v, rfl, hfound⟩ := course_call_bind.1 h
  · exact .unasked g
  cases found with
  | true =>
    obtain rfl := course_call.1 hfound
    exact .found e
  | false =>
    cases hcreate : o.createDatabase with
    | false =>
      simp only [hcreate, Bool.false_eq_true, if_false] at hfound
      obtain ⟨g, hthrow, rfl⟩ | ⟨_, _, _, _, hthrow, _⟩ := course_bind.1 hfound
      · obtain ⟨rfl, hg⟩ := course_throw.1 hthrow
        obtain rfl := Except.error.inj hg
        exact .absent hcreate
      · exact absurd (course_throw.1 hthrow).2 (by simp)
    | true =>
      simp only [hcreate, Bool.false_eq_true, if_false, if_true] at hfound
      obtain ⟨g, rfl, rfl⟩ | ⟨_, v, rfl, hconnect⟩ := course_call_bind.1 hfound
      · exact .uncreated hcreate g
      · obtain rfl := course_call.1 hconnect
        exact .created hcreate e

theorem course_applyOne {m : Migration} {e : Except Fault Record} (h : Course (applyOne o m).run t e) :
    (∃ f, m.prepare o.severalStatements = .error f ∧ t = [] ∧ e = .error f) ∨
      ∃ statements, m.prepare o.severalStatements = .ok statements ∧ t = [⟨.apply m statements o.user, e⟩] := by
  unfold applyOne at h
  obtain ⟨f, hf, rfl⟩ | ⟨u, statements, v, rfl, hu, hprepared⟩ := course_bind.1 h
  · obtain ⟨rfl, hprepare⟩ := course_liftExcept.1 hf
    exact .inl ⟨f, hprepare.symm, rfl, rfl⟩
  obtain ⟨rfl, hprepare⟩ := course_liftExcept.1 hu
  refine .inr ⟨statements, hprepare.symm, ?_⟩
  obtain ⟨g, hg, -⟩ | ⟨u, answer, w, rfl, hu, hanswered⟩ := course_bind.1 hprepared
  · obtain ⟨x, hx, -⟩ := course_attempt.1 hg
    simp at hx
  obtain ⟨_, hx, hcall⟩ := course_attempt.1 hu
  obtain rfl := Except.ok.inj hx
  obtain rfl := course_call.1 hcall
  cases answer with
  | ok r =>
    obtain ⟨rfl, rfl⟩ := course_pure.1 hanswered
    rfl
  | error f =>
    obtain ⟨g, hg, -⟩ | ⟨_, _, _, rfl, hnote, hthrow⟩ := course_bind.1 hanswered
    · exact absurd (course_note.1 hg).2 (by simp)
    · obtain ⟨rfl, -⟩ := course_note.1 hnote
      obtain ⟨rfl, rfl⟩ := course_throw.1 hthrow
      rfl

theorem course_applyAll {ms : List Migration} {e : Except Fault (List Record)} (h : Course (applyAll o ms).run t e) :
    Applies o ms t e := by
  induction ms generalizing t e with
  | nil =>
    obtain ⟨rfl, rfl⟩ := course_pure.1 h
    exact .finished
  | cons m ms ih =>
    unfold applyAll at h
    obtain ⟨f, hf, rfl⟩ | ⟨u, r, v, rfl, hu, happlied⟩ := course_bind.1 h
    · obtain ⟨g, hprepare, rfl, hg⟩ | ⟨statements, hprepare, rfl⟩ := course_applyOne hf
      · obtain rfl := Except.error.inj hg
        exact .unprepared hprepare
      · exact .failed hprepare f
    obtain ⟨g, -, -, hg⟩ | ⟨statements, hprepare, rfl⟩ := course_applyOne hu
    · simp at hg
    · obtain ⟨g, hg, rfl⟩ | ⟨w, rs, x, rfl, hw, hdone⟩ := course_bind.1 happlied
      · exact .applied hprepare r (ih hg)
      · obtain ⟨rfl, rfl⟩ := course_pure.1 hdone
        rw [List.append_nil]
        exact .applied hprepare r (ih hw)

theorem course_noteGaps {d : Diff} {e : Except Fault Unit} (h : Course (noteGaps d).run t e) : t = [] ∧ e = .ok () := by
  unfold noteGaps at h
  obtain ⟨g, hg, -⟩ | ⟨u, _, v, rfl, hu, hrest⟩ := course_bind.1 h
  · exact absurd (course_forM_note.1 hg).2 (by simp)
  · obtain ⟨rfl, -⟩ := course_forM_note.1 hu
    exact course_forM_note.1 hrest

/-- Changed files stop a run that is to fail over them. -/
theorem course_judgeDrift {policy : DriftPolicy} {drifted : List Migration} {e : Except Fault Unit}
    (h : Course (judgeDrift policy drifted).run t e) :
    t = [] ∧ (e = .ok () ∧ (drifted = [] ∨ policy = .warn) ∨
      ∃ m rest, drifted = m :: rest ∧ policy = .fail ∧ e = .error (.checksumMismatch m.version m.name)) := by
  cases drifted with
  | nil =>
    obtain ⟨rfl, rfl⟩ := course_pure.1 h
    exact ⟨rfl, .inl ⟨rfl, .inl rfl⟩⟩
  | cons m rest =>
    cases policy with
    | fail =>
      obtain ⟨rfl, rfl⟩ := course_throw.1 h
      exact ⟨rfl, .inr ⟨m, rest, rfl, rfl, rfl⟩⟩
    | warn =>
      obtain ⟨rfl, rfl⟩ := course_forM_note.1 h
      exact ⟨rfl, .inl ⟨rfl, .inr rfl⟩⟩

theorem course_runPending {e : Except Fault Report} (h : Course (runPending o folder).run t e) :
    Works o folder t e := by
  unfold runPending at h
  obtain ⟨f, hf, rfl⟩ | ⟨u, set, v, rfl, hu, hloaded⟩ := course_bind.1 h
  · obtain ⟨rfl, hload⟩ := course_liftExcept.1 hf
    exact .unloaded hload.symm
  obtain ⟨rfl, hload⟩ := course_liftExcept.1 hu
  obtain ⟨f, hf, rfl⟩ | ⟨records, v, rfl, hread⟩ := course_call_bind.1 hloaded
  · obtain rfl : v = _ := hf
    exact .unread hload.symm f
  obtain ⟨f, hf, -⟩ | ⟨u, _, v, rfl, hu, hnoted⟩ := course_bind.1 hread
  · exact absurd (course_noteGaps hf).2 (by simp)
  obtain ⟨rfl, -⟩ := course_noteGaps hu
  obtain ⟨f, hf, rfl⟩ | ⟨u, _, v, rfl, hu, hjudged⟩ := course_bind.1 hnoted
  · obtain ⟨rfl, ⟨hf, -⟩ | ⟨m, rest, hdrift, hfail, hf⟩⟩ := course_judgeDrift hf
    · simp at hf
    · obtain rfl := Except.error.inj hf
      exact .drifted hload.symm hdrift hfail
  obtain ⟨rfl, ⟨-, hdrift⟩ | ⟨m, rest, -, -, hf⟩⟩ := course_judgeDrift hu
  · obtain ⟨f, hf, rfl⟩ | ⟨u, applied, v, rfl, hu, hdone⟩ := course_bind.1 hjudged
    · exact .applies hload.symm hdrift (pending_eq set records ▸ course_applyAll hf)
    · obtain ⟨rfl, rfl⟩ := course_pure.1 hdone
      rw [List.append_nil]
      exact .applies hload.symm hdrift (pending_eq set records ▸ course_applyAll hu)
  · simp at hf

theorem course_takeLock {holder : String} {e : Except Fault Unit} (h : Course (takeLock holder).run t e) :
    (∃ f, t = [⟨.tryLock holder, .error f⟩] ∧ e = .error f) ∨
      (∃ other, t = [⟨.tryLock holder, .ok (.heldBy other)⟩] ∧ e = .error (.locked other)) ∨
      t = [⟨.tryLock holder, .ok .acquired⟩] ∧ e = .ok () := by
  unfold takeLock at h
  obtain ⟨f, rfl, rfl⟩ | ⟨outcome, v, rfl, hasked⟩ := course_call_bind.1 h
  · exact .inl ⟨f, rfl, rfl⟩
  cases outcome with
  | acquired =>
    obtain ⟨rfl, rfl⟩ := course_pure.1 hasked
    exact .inr (.inr ⟨rfl, rfl⟩)
  | heldBy other =>
    obtain ⟨rfl, rfl⟩ := course_throw.1 hasked
    exact .inr (.inl ⟨other, rfl, rfl⟩)

/-- What a run does once it has the lock. -/
def underLock (o : RunOptions) (folder : Folder) : Run Report := do
  let result ← attempt (runPending o folder)
  let released ← attempt (call (.unlock o.holder))
  match result, released with
  | .ok report, .ok () => return report
  | .ok _, .error f => throw f
  | .error f, .ok () => throw f
  | .error f, .error g =>
    note (.unlockFailed g)
    throw f

theorem migrate_eq (o : RunOptions) (folder : Folder) :
    migrate o folder = openDatabase o >>= fun _ => call .ensureBookkeeping >>= fun _ => takeLock o.holder >>= fun _ =>
      underLock o folder := rfl

theorem course_underLock {e : Except Fault Report} (h : Course (underLock o folder).run t e) :
    ∃ work worked released, t = work ++ [⟨.unlock o.holder, released⟩] ∧
      Course (runPending o folder).run work worked ∧ e = settled worked released := by
  unfold underLock at h
  obtain ⟨f, hf, -⟩ | ⟨u, worked, v, rfl, hu, hworked⟩ := course_bind.1 h
  · obtain ⟨x, hx, -⟩ := course_attempt.1 hf
    simp at hx
  obtain ⟨_, hx, hwork⟩ := course_attempt.1 hu
  obtain rfl := Except.ok.inj hx
  obtain ⟨f, hf, -⟩ | ⟨w, released, v, rfl, hw, hreleased⟩ := course_bind.1 hworked
  · obtain ⟨x, hx, -⟩ := course_attempt.1 hf
    simp at hx
  obtain ⟨_, hx, hrelease⟩ := course_attempt.1 hw
  obtain rfl := Except.ok.inj hx
  obtain rfl := course_call.1 hrelease
  -- a fault of the work is the end of the run, and one of the release is then only noted
  have hsettled : v = [] ∧ e = settled worked released := by
    cases worked with
    | ok report =>
      cases released with
      | ok _ => exact course_pure.1 hreleased
      | error f => exact course_throw.1 hreleased
    | error f =>
      cases released with
      | ok _ => exact course_throw.1 hreleased
      | error g =>
        obtain ⟨x, hx, -⟩ | ⟨u, _, v, rfl, hu, hthrow⟩ := course_bind.1 hreleased
        · exact absurd (course_note.1 hx).2 (by simp)
        · obtain ⟨rfl, -⟩ := course_note.1 hu
          exact course_throw.1 hthrow
  obtain ⟨rfl, rfl⟩ := hsettled
  exact ⟨u, worked, released, rfl, hwork, rfl⟩

/-- A run ends before it has the lock, or it goes on under it. -/
theorem course_migrate_cases {e : Except Fault Report} (h : Course (migrate o folder).run t e) :
    (∃ f, Opens o t (.error f) ∧ e = .error f) ∨
      ∃ opening, Opens o opening (.ok ()) ∧
        ((∃ f, t = opening ++ [⟨.ensureBookkeeping, .error f⟩] ∧ e = .error f) ∨
          (∃ f, t = opening ++ [⟨.ensureBookkeeping, .ok ()⟩, ⟨.tryLock o.holder, .error f⟩] ∧ e = .error f) ∨
          (∃ other, t = opening ++ [⟨.ensureBookkeeping, .ok ()⟩, ⟨.tryLock o.holder, .ok (.heldBy other)⟩] ∧
            e = .error (.locked other)) ∨
          ∃ v, t = opening ++ ([⟨.ensureBookkeeping, .ok ()⟩, ⟨.tryLock o.holder, .ok .acquired⟩] ++ v) ∧
            Course (underLock o folder).run v e) := by
  rw [migrate_eq] at h
  obtain ⟨f, hf, rfl⟩ | ⟨opening, _, v, rfl, hopen, hopened⟩ := course_bind.1 h
  · exact .inl ⟨f, course_openDatabase hf, rfl⟩
  refine .inr ⟨opening, course_openDatabase hopen, ?_⟩
  obtain ⟨f, rfl, rfl⟩ | ⟨_, v, rfl, hensured⟩ := course_call_bind.1 hopened
  · exact .inl ⟨f, rfl, rfl⟩
  obtain ⟨f, hf, rfl⟩ | ⟨u, _, v, rfl, hu, hlocked⟩ := course_bind.1 hensured
  · obtain ⟨g, rfl, hg⟩ | ⟨other, rfl, hg⟩ | ⟨-, hg⟩ := course_takeLock hf
    · obtain rfl := Except.error.inj hg
      exact .inr (.inl ⟨f, rfl, rfl⟩)
    · obtain rfl := Except.error.inj hg
      exact .inr (.inr (.inl ⟨other, rfl, rfl⟩))
    · simp at hg
  · obtain ⟨g, -, hg⟩ | ⟨other, -, hg⟩ | ⟨rfl, -⟩ := course_takeLock hu
    · simp at hg
    · simp at hg
    · exact .inr (.inr (.inr ⟨v, rfl, hlocked⟩))

/-- A migrating run opens the database, takes the lock, works and releases the lock, or ends on the way there. -/
theorem course_migrate {e : Except Fault Report} (h : Course (migrate o folder).run t e) : Migrates o folder t e := by
  obtain ⟨f, hopens, rfl⟩ | ⟨opening, hopens, h⟩ := course_migrate_cases h
  · exact .unopened hopens
  obtain ⟨f, rfl, rfl⟩ | ⟨f, rfl, rfl⟩ | ⟨other, rfl, rfl⟩ | ⟨v, rfl, hv⟩ := h
  · exact .unensured hopens f
  · exact .unlocked hopens f
  · exact .refused hopens other
  · obtain ⟨work, worked, released, rfl, hwork, rfl⟩ := course_underLock hv
    exact .locked hopens hwork released

/-! ## Runs that migrate nothing -/

/-- How a run that only looks gets to the records: there are none if there is no database. -/
inductive Looks : List Answered → Except Fault (Bool × List Record) → Prop
  | unasked (f : Fault) : Looks [⟨.databaseExists, .error f⟩] (.error f)
  | absent : Looks [⟨.databaseExists, .ok false⟩] (.ok (false, []))
  | unconnected (f : Fault) : Looks [⟨.databaseExists, .ok true⟩, ⟨.connect, .error f⟩] (.error f)
  | unread (f : Fault) :
      Looks [⟨.databaseExists, .ok true⟩, ⟨.connect, .ok ()⟩, ⟨.appliedRecords, .error f⟩] (.error f)
  | read (records : List Record) :
      Looks [⟨.databaseExists, .ok true⟩, ⟨.connect, .ok ()⟩, ⟨.appliedRecords, .ok records⟩] (.ok (true, records))

/-- The plan for a set of migrations and the records that were found. -/
def planOf (set : MigrationSet) (found : Bool × List Record) : Plan :=
  let entries := statusEntries set found.2
  { databaseExists := found.1, pending := entries.filter (·.state == .pending), entries }

theorem course_readRecords {e : Except Fault (Bool × List Record)} (h : Course readRecords.run t e) : Looks t e := by
  unfold readRecords at h
  obtain ⟨f, rfl, rfl⟩ | ⟨found, v, rfl, hfound⟩ := course_call_bind.1 h
  · exact .unasked f
  cases found with
  | false =>
    obtain ⟨rfl, rfl⟩ := course_pure.1 hfound
    exact .absent
  | true =>
    obtain ⟨f, rfl, rfl⟩ | ⟨_, v, rfl, hconnected⟩ := course_call_bind.1 hfound
    · exact .unconnected f
    obtain ⟨f, rfl, rfl⟩ | ⟨records, v, rfl, hread⟩ := course_call_bind.1 hconnected
    · exact .unread f
    · obtain ⟨rfl, rfl⟩ := course_pure.1 hread
      exact .read records

/-- A plan needs the files first, then the records. -/
theorem course_plan {e : Except Fault Plan} (h : Course (plan folder).run t e) :
    (∃ f, MigrationSet.load folder = .error f ∧ t = [] ∧ e = .error f) ∨
      ∃ set found, MigrationSet.load folder = .ok set ∧ Looks t found ∧ e = found.map (planOf set) := by
  unfold plan at h
  obtain ⟨f, hf, rfl⟩ | ⟨u, set, v, rfl, hu, hloaded⟩ := course_bind.1 h
  · obtain ⟨rfl, hload⟩ := course_liftExcept.1 hf
    exact .inl ⟨f, hload.symm, rfl, rfl⟩
  obtain ⟨rfl, hload⟩ := course_liftExcept.1 hu
  obtain ⟨f, hf, rfl⟩ | ⟨u, found, v, rfl, hu, hread⟩ := course_bind.1 hloaded
  · exact .inr ⟨set, .error f, hload.symm, course_readRecords hf, rfl⟩
  · obtain ⟨rfl, rfl⟩ := course_pure.1 hread
    rw [List.append_nil]
    exact .inr ⟨set, .ok found, hload.symm, course_readRecords hu, rfl⟩

/-- The state of every version is that of the plan. -/
theorem course_status {e : Except Fault (List StatusEntry)} (h : Course (status folder).run t e) :
    ∃ planned, Course (plan folder).run t planned ∧ e = planned.map (·.entries) := by
  unfold status at h
  obtain ⟨f, hf, rfl⟩ | ⟨u, planned, v, rfl, hu, hdone⟩ := course_bind.1 h
  · exact ⟨.error f, hf, rfl⟩
  · obtain ⟨rfl, rfl⟩ := course_pure.1 hdone
    rw [List.append_nil]
    exact ⟨.ok planned, hu, rfl⟩

theorem course_forceUnlock {e : Except Fault Bool} (h : Course forceUnlock.run t e) :
    (∃ f, t = [⟨.connect, .error f⟩] ∧ e = .error f) ∨ t = [⟨.connect, .ok ()⟩, ⟨.forceUnlock, e⟩] := by
  unfold forceUnlock at h
  obtain ⟨f, rfl, rfl⟩ | ⟨_, v, rfl, hconnected⟩ := course_call_bind.1 h
  · exact .inl ⟨f, rfl, rfl⟩
  obtain ⟨f, rfl, rfl⟩ | ⟨removed, v, rfl, hremoved⟩ := course_call_bind.1 hconnected
  · exact .inr rfl
  cases removed with
  | false =>
    obtain ⟨rfl, rfl⟩ := course_pure.1 hremoved
    exact .inr rfl
  | true =>
    obtain ⟨f, hf, -⟩ | ⟨u, _, v, rfl, hu, hdone⟩ := course_bind.1 hremoved
    · exact absurd (course_note.1 hf).2 (by simp)
    · obtain ⟨rfl, -⟩ := course_note.1 hu
      obtain ⟨rfl, rfl⟩ := course_pure.1 hdone
      exact .inr rfl

end SchemaMigration.Run
