import SchemaMigration.Proofs.Run.Rehearsed

/-!
# The lock around a run

`Migrates.acquired`, `Migrates.unacquired` : the calls of a run with the lock and of one without it.
`LockBracket`         : what holds of the calls, the lock and the end of a run.
`migrate_lockBracket` : it holds of every run, whatever fails.

Calls that open the database and calls of the work under the lock leave the lock as it is. What becomes of it is decided
where it is asked for and where it is given back: `lockedBy_of_acquired` if the run gets it, `lockedBy_of_unacquired` if
not.
-/

namespace SchemaMigration

set_option autoImplicit false

/-- Whether the call prepares the database. -/
def Call.isOpening : Call → Bool
  | databaseExists | createDatabase | connect | ensureBookkeeping => true
  | _ => false

/-- Whether the call belongs to the work under the lock. -/
def Call.isWork : Call → Bool
  | appliedRecords | apply .. => true
  | _ => false

theorem Call.isLocking_of_isOpening {c : Call} (h : c.isOpening = true) : c.isLocking = false := by
  cases c <;> simp_all [isOpening, isLocking]

theorem Call.isLocking_of_isWork {c : Call} (h : c.isWork = true) : c.isLocking = false := by
  cases c <;> simp_all [isWork, isLocking]

theorem Call.isApply_of_isOpening {c : Call} (h : c.isOpening = true) : c.isApply = false := by
  cases c <;> simp_all [isOpening, isApply]

theorem Call.isWork_of_isApply {c : Call} (h : c.isApply = true) : c.isWork = true := by
  cases c <;> simp_all [isWork, isApply]

namespace Run

variable {o : RunOptions} {folder : Folder} {t : List Answered}

/-! ## The calls of the parts -/

theorem Opens.isOpening {e : Except Fault Unit} (h : Opens o t e) : ∀ x ∈ t, x.call.isOpening = true := by
  cases h <;> simp [Call.isOpening]

/-- A database is made if there is none and one is asked for. -/
theorem Opens.creates {e : Except Fault Unit} (h : Opens o t e) :
    .createDatabase ∈ t.map (·.call) ↔ ⟨.databaseExists, .ok false⟩ ∈ t ∧ o.createDatabase = true := by
  cases h <;> simp_all

theorem Opens.ensured {e a : Except Fault Unit} (h : Opens o t e) :
    ∀ x ∈ t ++ [⟨.ensureBookkeeping, a⟩], x.call.isOpening = true := by
  intro x hx
  obtain hx | hx := List.mem_append.1 hx
  · exact h.isOpening x hx
  · obtain rfl := List.mem_singleton.1 hx
    rfl

theorem Opens.asks {e : Except Fault Unit} (h : Opens o t e) (outcome : Except Fault LockOutcome) :
    ∀ x ∈ t ++ [⟨.ensureBookkeeping, .ok ()⟩, ⟨.tryLock o.holder, outcome⟩],
      x.call.isOpening = true ∨ x.call = .tryLock o.holder := by
  intro x hx
  rw [List.append_cons] at hx
  obtain hx | hx := List.mem_append.1 hx
  · exact .inl (h.ensured x hx)
  · obtain rfl := List.mem_singleton.1 hx
    exact .inr rfl

theorem Applies.isApply {ms : List Migration} {e : Except Fault (List Record)} (h : Applies o ms t e) :
    ∀ x ∈ t, x.call.isApply = true := by
  induction h with
  | finished | unprepared => simp
  | failed => simp [Call.isApply]
  | applied _ _ _ ih => simpa [Call.isApply] using ih

theorem Works.isWork {e : Except Fault Report} (h : Works o folder t e) : ∀ x ∈ t, x.call.isWork = true := by
  cases h with
  | unloaded => simp
  | unread | drifted => simp [Call.isWork]
  | applies _ _ ht =>
    rw [List.forall_mem_cons]
    exact ⟨rfl, fun x hx => Call.isWork_of_isApply (ht.isApply x hx)⟩

/-! ## The calls of a run -/

/-- What comes after the opening makes no database and does not ask for one. -/
theorem Migrates.split {e : Except Fault Report} (h : Migrates o folder t e) :
    ∃ opening rest opened, t = opening ++ rest ∧ Opens o opening opened ∧
      (∀ x ∈ rest, x.call ≠ .databaseExists ∧ x.call ≠ .createDatabase) ∧
      ∀ f, opened = .error f → rest = [] ∧ e = .error f := by
  cases h with
  | unopened hopens => exact ⟨_, [], _, (List.append_nil _).symm, hopens, by simp, fun f hf => ⟨rfl, by simpa using hf⟩⟩
  | unensured hopens | unlocked hopens | refused hopens => exact ⟨_, _, _, rfl, hopens, by simp, by simp⟩
  | locked hopens hwork released =>
    refine ⟨_, _, _, rfl, hopens, fun x hx => ?_, by simp⟩
    simp only [List.mem_append, List.mem_cons, List.not_mem_nil, or_false] at hx
    obtain (rfl | rfl) | hx | rfl := hx
    · simp
    · simp
    · have hisWork := (course_runPending hwork).isWork x hx
      constructor <;> rintro hc <;> simp [hc, Call.isWork] at hisWork
    · simp

theorem Migrates.creates {e : Except Fault Report} (h : Migrates o folder t e) :
    .createDatabase ∈ t.map (·.call) ↔ ⟨.databaseExists, .ok false⟩ ∈ t ∧ o.createDatabase = true := by
  obtain ⟨opening, rest, opened, rfl, hopens, hrest, -⟩ := h.split
  have hcreate : .createDatabase ∉ rest.map (·.call) := by
    intro hmem
    obtain ⟨x, hx, hc⟩ := List.mem_map.1 hmem
    exact (hrest x hx).2 hc
  have hexists : ⟨.databaseExists, .ok false⟩ ∉ rest := fun hx => (hrest _ hx).1 rfl
  rw [List.map_append, List.mem_append, List.mem_append, or_iff_left hcreate, or_iff_left hexists]
  exact hopens.creates

/-- Without a database, and if none is to be made, nothing more is done. -/
theorem Migrates.missing {e : Except Fault Report} (h : Migrates o folder t e)
    (hexists : ⟨.databaseExists, .ok false⟩ ∈ t) (hcreate : o.createDatabase = false) :
    t = [⟨.databaseExists, .ok false⟩] ∧ e = .error (.databaseMissing o.database) := by
  obtain ⟨opening, rest, opened, rfl, hopens, hrest, hfault⟩ := h.split
  obtain hexists | hexists := List.mem_append.1 hexists
  · cases hopens with
    | absent =>
      obtain ⟨rfl, he⟩ := hfault _ rfl
      exact ⟨rfl, he⟩
    | uncreated hasked | created hasked => simp [hasked] at hcreate
    | unasked | found => simp at hexists
  · exact absurd rfl (hrest _ hexists).1

theorem Opens.connected (h : Opens o t (.ok ())) : ⟨.connect, .ok ()⟩ ∈ t := by
  cases h <;> simp

/-- A run only opens the database, or it asks for the lock in a session and releases it at its end if it got it. -/
theorem Migrates.asks {e : Except Fault Report} (h : Migrates o folder t e) :
    (∀ x ∈ t, x.call.isOpening = true) ∨ ∃ before a rest, t = before ++ ⟨.tryLock o.holder, a⟩ :: rest ∧
      (∀ x ∈ before, x.call.isOpening = true) ∧ ⟨.connect, .ok ()⟩ ∈ before ∧
      (rest = [] ∧ a ≠ .ok .acquired ∨
        a = .ok .acquired ∧ ∃ work released, rest = work ++ [⟨.unlock o.holder, released⟩]) := by
  have hconnected {opening : List Answered} (hopens : Opens o opening (.ok ())) :
      ⟨.connect, .ok ()⟩ ∈ opening ++ [⟨.ensureBookkeeping, .ok ()⟩] := List.mem_append_left _ hopens.connected
  cases h with
  | unopened hopens => exact .inl hopens.isOpening
  | unensured hopens => exact .inl hopens.ensured
  | @unlocked opening hopens f =>
    exact .inr ⟨opening ++ [⟨.ensureBookkeeping, .ok ()⟩], .error f, [], by simp, hopens.ensured, hconnected hopens,
      .inl ⟨rfl, by simp⟩⟩
  | @refused opening hopens other =>
    exact .inr ⟨opening ++ [⟨.ensureBookkeeping, .ok ()⟩], .ok (.heldBy other), [], by simp, hopens.ensured,
      hconnected hopens, .inl ⟨rfl, by simp⟩⟩
  | @locked opening work worked hopens hwork released =>
    exact .inr ⟨opening ++ [⟨.ensureBookkeeping, .ok ()⟩], .ok .acquired, work ++ [⟨.unlock o.holder, released⟩],
      by simp, hopens.ensured, hconnected hopens, .inr ⟨rfl, work, released, rfl⟩⟩

/-- The run ends before it knows who has the lock: a call fails, and that is the fault of the run, or there is no
database and none is to be made. -/
inductive StopsShort (o : RunOptions) : List Answered → Except Fault Report → Prop
  | failed (before : List Answered) (c : Call) (f : Fault) : StopsShort o (before ++ [⟨c, .error f⟩]) (.error f)
  | missing (h : o.createDatabase = false) :
      StopsShort o [⟨.databaseExists, .ok false⟩] (.error (.databaseMissing o.database))

theorem Opens.stopsShort {f : Fault} (h : Opens o t (.error f)) : StopsShort o t (.error f) := by
  cases h with
  | unasked => exact .failed [] _ f
  | found => exact .failed [_] _ f
  | absent hcreate => exact .missing hcreate
  | uncreated => exact .failed [_] _ f
  | created => exact .failed [_, _] _ f

/-- A run that gets the lock works under it and releases it once, at its end. -/
theorem Migrates.acquired {e : Except Fault Report} (h : Migrates o folder t e)
    (hacquired : ⟨.tryLock o.holder, .ok .acquired⟩ ∈ t) :
    ∃ before work released worked,
      t = before ++ ⟨.tryLock o.holder, .ok .acquired⟩ :: (work ++ [⟨.unlock o.holder, released⟩]) ∧
        (∀ x ∈ before, x.call.isOpening = true) ∧ (∀ x ∈ work, x.call.isWork = true) ∧
        Works o folder work worked ∧ e = settled worked released := by
  have hopening {t : List Answered} {e : Except Fault Unit} (hopens : Opens o t e) :
      ⟨.tryLock o.holder, .ok .acquired⟩ ∉ t := fun hx => by simpa [Call.isOpening] using hopens.isOpening _ hx
  cases h with
  | unopened hopens => exact absurd hacquired (hopening hopens)
  | unensured hopens | unlocked hopens | refused hopens => simp [hopening hopens] at hacquired
  | @locked opening work worked hopens hwork released =>
    exact ⟨opening ++ [⟨.ensureBookkeeping, .ok ()⟩], work, released, worked, by simp, hopens.ensured,
      (course_runPending hwork).isWork, course_runPending hwork, rfl⟩

/-- A run that does not get the lock neither works nor releases it. -/
theorem Migrates.unacquired {e : Except Fault Report} (h : Migrates o folder t e)
    (hunacquired : ⟨.tryLock o.holder, .ok .acquired⟩ ∉ t) :
    (∀ x ∈ t, x.call.isOpening = true ∨ x.call = .tryLock o.holder) ∧
      (StopsShort o t e ∨ ∃ other, ⟨.tryLock o.holder, .ok (.heldBy other)⟩ ∈ t ∧ e = .error (.locked other)) := by
  cases h with
  | unopened hopens => exact ⟨fun x hx => .inl (hopens.isOpening x hx), .inl hopens.stopsShort⟩
  | unensured hopens f => exact ⟨fun x hx => .inl (hopens.ensured x hx), .inl (.failed _ _ f)⟩
  | @unlocked opening hopens f =>
    have hstops : StopsShort o ((opening ++ [⟨.ensureBookkeeping, .ok ()⟩]) ++ [⟨.tryLock o.holder, .error f⟩])
        (.error f) := .failed _ _ f
    rw [List.append_assoc] at hstops
    exact ⟨hopens.asks _, .inl hstops⟩
  | refused hopens other => exact ⟨hopens.asks _, .inr ⟨other, by simp, rfl⟩⟩
  | locked => simp at hunacquired

end Run

/-! ## The lock of a rehearsal -/

namespace Rehearsal

open Run (Serves)

variable {s u : Rehearsal} {holder : String}

/-- Only a free lock is got, and it is free again after its release. -/
theorem lockedBy_of_acquired {before work : List Answered} {released : Except Fault Unit}
    (h : Serves answer s (before ++ ⟨.tryLock holder, .ok .acquired⟩ :: (work ++ [⟨.unlock holder, released⟩])) u)
    (hbefore : ∀ x ∈ before, x.call.isLocking = false) (hwork : ∀ x ∈ work, x.call.isLocking = false) :
    s.lockedBy = none ∧ (s.failure? .unlock = none → u.lockedBy = none) := by
  obtain ⟨v, hv, hlock⟩ := Run.serves_append.1 h
  have hvs : v.lockedBy = s.lockedBy := serves_lockedBy hv hbefore
  rcases hlock with _ | ⟨hanswer, hlocked⟩
  obtain ⟨f, hlock⟩ | ⟨other, -, hlock⟩ | ⟨hfree, hlock⟩ := answer_tryLock holder v
  · simp [hlock] at hanswer
  · simp [hlock] at hanswer
  refine ⟨hvs ▸ hfree, fun hsilent => ?_⟩
  rw [hlock] at hlocked
  obtain ⟨w, hw, hunlock⟩ := Run.serves_append.1 hlocked
  have hholds : w.lockedBy = some holder := serves_lockedBy hw hwork
  have hkept : v.failures = s.failures := serves_failures hv
  have hfailures : w.failures = s.failures := (serves_failures hw).trans hkept
  have hsilent : w.failure? .unlock = none := by rw [failure?, hfailures]; exact hsilent
  rcases hunlock with _ | ⟨-, ⟨⟩⟩
  rw [answer_of_silent rfl hsilent, perform, hholds]
  simp

/-- Calls that open the database and ask for the lock in vain leave it as it is and learn who holds it. -/
theorem lockedBy_of_unacquired {t : List Answered} (h : Serves answer s t u)
    (ht : ∀ x ∈ t, x.call.isOpening = true ∨ x.call = .tryLock holder)
    (hunacquired : ⟨.tryLock holder, .ok .acquired⟩ ∉ t) :
    u.lockedBy = s.lockedBy ∧ ∀ other, ⟨.tryLock holder, .ok (.heldBy other)⟩ ∈ t → s.lockedBy = some other := by
  induction h with
  | nil s => simp
  | @cons s u c a t ha _ ih =>
    rw [List.forall_mem_cons] at ht
    rw [List.mem_cons, not_or] at hunacquired
    obtain ⟨hlock, hheld⟩ := ih ht.2 hunacquired.2
    obtain hc | rfl := ht.1
    · rw [(keeps_answer c s).lockedBy (Call.isLocking_of_isOpening hc)] at hlock hheld
      refine ⟨hlock, fun other hx => ?_⟩
      obtain hx | hx := List.mem_cons.1 hx
      · cases hx
        simp [Call.isOpening] at hc
      · exact hheld other hx
    · obtain ⟨f, hanswer⟩ | ⟨another, hanother, hanswer⟩ | ⟨-, hanswer⟩ := answer_tryLock holder s
      · rw [hanswer] at ha hlock hheld
        refine ⟨hlock, fun other hx => ?_⟩
        obtain hx | hx := List.mem_cons.1 hx
        · simp [← ha] at hx
        · exact hheld other hx
      · rw [hanswer] at ha hlock hheld
        refine ⟨hlock, fun other hx => ?_⟩
        obtain hx | hx := List.mem_cons.1 hx
        · obtain rfl : other = another := by simpa [← ha] using hx
          exact hanother
        · exact hheld other hx
      · rw [hanswer] at ha
        exact absurd (by rw [← ha]) hunacquired.1

/-- A lock that is held is not got. -/
theorem unacquired_of_held {other : String} {o : RunOptions} {folder : Folder} {t : List Answered}
    {e : Except Fault Report} (h : Serves answer s t u) (hruns : Run.Migrates o folder t e)
    (hs : s.lockedBy = some other) : ⟨.tryLock o.holder, .ok .acquired⟩ ∉ t := by
  intro hacquired
  obtain ⟨before, work, released, worked, rfl, hbefore, hwork, -⟩ := hruns.acquired hacquired
  have hfree := (lockedBy_of_acquired h (fun x hx => Call.isLocking_of_isOpening (hbefore x hx))
    fun x hx => Call.isLocking_of_isWork (hwork x hx)).1
  simp [hs] at hfree

end Rehearsal

/-! ## A whole run -/

/-- What holds of a migrating run with these answered calls, played from the state. -/
structure LockBracket (o : RunOptions) (folder : Folder) (s : Rehearsal) (t : List Answered)
    (played : Run.Played Rehearsal Report) : Prop where
  calls : t.map (·.call) = played.calls
  /-- The calls come in order, and only a call that fails or the lock of another run ends them early. -/
  course : Run.Migrates o folder t played.result
  /-- A database is made if there is none and one is asked for. -/
  creates : .createDatabase ∈ played.calls ↔ ⟨.databaseExists, .ok false⟩ ∈ t ∧ o.createDatabase = true
  missing : ⟨.databaseExists, .ok false⟩ ∈ t → o.createDatabase = false →
    played.calls = [.databaseExists] ∧ played.result = .error (.databaseMissing o.database)
  /-- A run that gets the lock works under it, then releases it; this is its last call. A fault of the work outweighs
  one of the release. -/
  acquired : ⟨.tryLock o.holder, .ok .acquired⟩ ∈ t → ∃ before work released worked,
    t = before ++ ⟨.tryLock o.holder, .ok .acquired⟩ :: (work ++ [⟨.unlock o.holder, released⟩]) ∧
    (∀ x ∈ before, x.call.isOpening = true) ∧ (∀ x ∈ work, x.call.isWork = true) ∧
    Run.Works o folder work worked ∧ played.result = Run.settled worked released
  /-- A run that does not get it neither works nor releases a lock. -/
  unacquired : ⟨.tryLock o.holder, .ok .acquired⟩ ∉ t →
    (∀ c ∈ played.calls, c.isOpening = true ∨ c = .tryLock o.holder) ∧
    (Run.StopsShort o t played.result ∨
      ∃ other, ⟨.tryLock o.holder, .ok (.heldBy other)⟩ ∈ t ∧ played.result = .error (.locked other))
  /-- A lock that is held stays so, and the run that asks for it ends with the name of its holder. -/
  held : ∀ other, s.lockedBy = some other →
    played.state.lockedBy = some other ∧ played.state.records = s.records ∧
    (Run.StopsShort o t played.result ∨ played.result = .error (.locked other))
  /-- A lock that is free is free again, however the run ends. -/
  freed : s.lockedBy = none → s.failure? .unlock = none → played.state.lockedBy = none

/-- Every run keeps to the lock, whatever the state, the files and the failures are. -/
theorem migrate_lockBracket (o : RunOptions) (folder : Folder) (s : Rehearsal) :
    LockBracket o folder s ((Run.migrate o folder).transcript Rehearsal.answer s)
      ((Run.migrate o folder).play Rehearsal.answer s) := by
  have hcalls := Run.map_call_transcript (Run.migrate o folder) Rehearsal.answer s
  have hruns := Run.course_migrate (Run.course_transcript (Run.migrate o folder) Rehearsal.answer s)
  have hserves := Run.serves_transcript (Run.migrate o folder) Rehearsal.answer s
  refine ⟨hcalls, hruns, hcalls ▸ hruns.creates, fun hexists hcreate => ?_, hruns.acquired, fun hunacquired => ?_,
    fun other hheld => ?_, fun hfree hsilent => ?_⟩
  · -- without a database
    obtain ⟨ht, he⟩ := hruns.missing hexists hcreate
    rw [← hcalls, ht]
    exact ⟨rfl, he⟩
  · obtain ⟨hasks, hends⟩ := hruns.unacquired hunacquired
    exact ⟨by simpa [← hcalls] using hasks, hends⟩
  · -- the lock is held: it is not got, so nothing is applied
    have hunacquired := Rehearsal.unacquired_of_held hserves hruns hheld
    obtain ⟨hasks, hends⟩ := hruns.unacquired hunacquired
    obtain ⟨hlock, hanswered⟩ := Rehearsal.lockedBy_of_unacquired hserves hasks hunacquired
    have hrecords := Rehearsal.serves_records hserves
    rw [applications_eq_nil fun x hx => ?_, List.map_nil, List.append_nil] at hrecords
    · refine ⟨hlock.trans hheld, hrecords, hends.imp_right ?_⟩
      rintro ⟨another, hrefused, he⟩
      obtain rfl := Option.some.inj ((hanswered another hrefused).symm.trans hheld)
      exact he
    · obtain hc | hc := hasks x hx
      · exact Call.isApply_of_isOpening hc
      · rw [hc]
        rfl
  · by_cases hacquired : ⟨.tryLock o.holder, .ok .acquired⟩ ∈ (Run.migrate o folder).transcript Rehearsal.answer s
    · obtain ⟨before, work, released, worked, ht, hbefore, hwork, -⟩ := hruns.acquired hacquired
      rw [ht] at hserves
      exact (Rehearsal.lockedBy_of_acquired hserves (fun x hx => Call.isLocking_of_isOpening (hbefore x hx))
        fun x hx => Call.isLocking_of_isWork (hwork x hx)).2 hsilent
    · exact (Rehearsal.lockedBy_of_unacquired hserves (hruns.unacquired hacquired).1 hacquired).1.trans hfree

end SchemaMigration
