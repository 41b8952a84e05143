import SchemaMigration.Proofs.Run.Outcome

/-!
# Runs that get the lock

`Rehearsal.lockedFor`     : the rehearsal that a run works on.
`play_migrate_of_enters`  : a run that gets the lock opens the database, works under the lock and releases it.
`play_runPending_fails`   : changed files end the work before anything is applied, if they are to.
`play_runPending_applies` : else the work is to apply what is pending, and its report tells of the comparison.

Whether a run gets the lock does not depend on the folder, and its options matter to the work only where they say so.
-/

namespace SchemaMigration

set_option autoImplicit false

/-- The rehearsal with its database there and its lock taken. -/
def Rehearsal.lockedFor (s : Rehearsal) (holder : String) : Rehearsal :=
  { s with databaseExists := true, lockedBy := some holder }

namespace Run

variable {o : RunOptions} {folder : Folder} {s : Rehearsal} {set : MigrationSet}

/-! ## The frame of a run -/

/-- A run that gets the lock does the rest under it. -/
theorem play_migrate_underLock (folder : Folder) (h : Enters o s) :
    (migrate o folder).play Rehearsal.answer s =
      let p := (underLock o folder).play Rehearsal.answer (s.lockedFor o.holder)
      { p with calls := openingCalls s ++ (.ensureBookkeeping :: .tryLock o.holder :: p.calls) } := by
  have hopen := play_openDatabase h
  have hensure : (call .ensureBookkeeping : Run Unit).play Rehearsal.answer { s with databaseExists := true } = _ :=
    Rehearsal.play_ensureBookkeeping h.ensures
  have hlock : (takeLock o.holder).play Rehearsal.answer { s with databaseExists := true } =
      ⟨.ok (), s.lockedFor o.holder, [.tryLock o.holder], []⟩ := play_takeLock h.locks h.free
  rw [migrate_eq, play_bind, hopen, andThen_ok, play_bind, hensure, andThen_ok, play_bind, hlock, andThen_ok]
  rfl

/-- The lock is released after the work, however the work ended. -/
theorem play_underLock (o : RunOptions) (folder : Folder) (s : Rehearsal) :
    ∃ events, (underLock o folder).play Rehearsal.answer s =
      let work := (runPending o folder).play Rehearsal.answer s
      let released := Rehearsal.answer (.unlock o.holder) work.state
      ⟨settled work.result released.1, released.2, work.calls ++ [.unlock o.holder], events⟩ := by
  rw [underLock, play_bind, play_attempt, andThen_ok, play_bind, play_attempt, andThen_ok, play_call]
  generalize (runPending o folder).play Rehearsal.answer s = work
  generalize hreleased : Rehearsal.answer (.unlock o.holder) work.state = released
  obtain ⟨worked, left, calls, events⟩ := work
  obtain ⟨ended, t⟩ := released
  -- which fault wins depends on both ends
  cases worked <;> cases ended <;> exact ⟨_, by simp only [hreleased]; rfl⟩

/-- A run that gets the lock opens the database, works under the lock and releases it. -/
theorem play_migrate_of_enters (folder : Folder) (h : Enters o s) :
    ∃ events, (migrate o folder).play Rehearsal.answer s =
      let work := (runPending o folder).play Rehearsal.answer (s.lockedFor o.holder)
      let released := Rehearsal.answer (.unlock o.holder) work.state
      ⟨settled work.result released.1, released.2,
        openingCalls s ++ (.ensureBookkeeping :: .tryLock o.holder :: (work.calls ++ [.unlock o.holder])), events⟩ := by
  obtain ⟨events, hplay⟩ := play_underLock o folder (s.lockedFor o.holder)
  refine ⟨events, ?_⟩
  rw [play_migrate_underLock folder h, hplay]

/-! ## The work -/

/-- Changed files end the work before anything is applied, if they are to. -/
theorem play_runPending_fails (hloads : MigrationSet.load folder = .ok set)
    (hreads : s.failure? .appliedRecords = none) {m : Migration} {rest : List Migration}
    (hdrifted : (Diff.of set s.records).drifted = m :: rest) (hpolicy : o.drift = .fail) :
    ∃ events, (runPending o folder).play Rehearsal.answer s =
      ⟨.error (.checksumMismatch m.version m.name), s, [.appliedRecords], events⟩ := by
  obtain ⟨gaps, hgaps⟩ := play_noteGaps (s := s) (Diff.of set s.records)
  refine ⟨gaps ++ [], ?_⟩
  rw [runPending, hloads]
  simp only [play_bind, play_liftExcept, andThen_ok, Rehearsal.play_appliedRecords hreads, hgaps, hdrifted, hpolicy,
    judgeDrift, play_throw, andThen_error]
  rfl

/-- Without changed files, or if they are let pass, the work is to apply what is pending. -/
theorem play_runPending_applies (hloads : MigrationSet.load folder = .ok set)
    (hreads : s.failure? .appliedRecords = none) (hdrift : (Diff.of set s.records).drifted = [] ∨ o.drift = .warn) :
    ∃ events, (runPending o folder).play Rehearsal.answer s =
      let p := (applyAll o (set.unrecorded s.records)).play Rehearsal.answer s
      ⟨p.result.map (reportOf (Diff.of set s.records)), p.state, .appliedRecords :: p.calls, events⟩ := by
  obtain ⟨gaps, hgaps⟩ := play_noteGaps (s := s) (Diff.of set s.records)
  obtain ⟨drifts, hdrifts⟩ := play_judgeDrift (s := s) hdrift
  rw [runPending, hloads]
  simp only [play_bind, play_liftExcept, andThen_ok, Rehearsal.play_appliedRecords hreads, hgaps, hdrifts, pending_eq]
  cases hresult : ((applyAll o (set.unrecorded s.records)).play Rehearsal.answer s).result with
  | ok applied => exact ⟨_, by simp [Played.andThen, hresult, Except.map, reportOf]; rfl⟩
  | error f => exact ⟨_, by simp [Played.andThen, hresult, Except.map]; rfl⟩

end Run

end SchemaMigration
