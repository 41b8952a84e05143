import SchemaMigration.Proofs.Clickhouse.LockRow
import SchemaMigration.Proofs.Clickhouse.LockTable
import SchemaMigration.Proofs.Sqlite.Refinement

/-!
# One lock on two engines

`Call.lockAfter`, `Call.lockAnswer` : the lock as a machine, up to what a holder is told that asks for it again.
`Run.KeepsLock`                     : an engine that answers the calls of the lock as the machine does.
`Sqlite.keepsLock`, `Clickhouse.keepsLock` : both engines do.
`LocksCompare`                      : how the locks of the two compare at a call.
`locks_agree_iff`                   : they are held by the same holder after every call, and callers hear the same.

The engines differ about a holder that asks for the lock that it has. A database in a file tells it that the lock is
held, by itself; a server tells it that it has the lock. So callers hear the same exactly if no holder asks again.
-/

namespace SchemaMigration

set_option autoImplicit false

open Sqlite (Heard Timed)
open Time (Instant)

/-! ## The machine -/

namespace Call

/-- Who has the lock after a call. -/
def lockAfter : Call → Option String → Option String
  | tryLock holder, lock => some (lock.getD holder)
  | unlock holder, lock => if lock = some holder then none else lock
  | forceUnlock, _ => none
  | _, lock => lock

/-- What a call of the lock is answered. Engines differ in what they tell a holder that asks for the lock again. -/
def lockAnswer (again : String → LockOutcome) : (c : Call) → Option String → Option c.Answer
  | tryLock _, none => some .acquired
  | tryLock holder, some other => some (if other = holder then again holder else .heldBy other)
  | unlock _, _ => some ()
  | forceUnlock, lock => some lock.isSome
  | _, _ => none

/-- The holder of the lock asks for it. -/
def AsksAgain (c : Call) (lock : Option String) : Prop := ∃ holder, c = tryLock holder ∧ lock = some holder

/-- A call of the lock, which is given to holders with readable names only. -/
def IsLegible (c : Call) : Prop := c.isLocking = true ∧ ∀ holder, c = tryLock holder → Clickhouse.Legible holder

variable {c : Call} {lock : Option String}

/-- The machine has an answer to every call of the lock. -/
theorem exists_lockAnswer (hc : c.isLocking = true) (again : String → LockOutcome) (lock : Option String) :
    ∃ a, c.lockAnswer again lock = some a := by
  cases c with
  | tryLock holder => cases lock <;> exact ⟨_, rfl⟩
  | unlock | forceUnlock => exact ⟨_, rfl⟩
  | _ => simp [isLocking] at hc

theorem lockAnswer_eq_iff :
    c.lockAnswer .heldBy lock = c.lockAnswer (fun _ => .acquired) lock ↔ ¬c.AsksAgain lock := by
  cases c with
  | tryLock holder =>
    cases lock with
    | none => simp [lockAnswer, AsksAgain]
    | some other =>
      by_cases hother : other = holder
      · simp [lockAnswer, AsksAgain, hother]
      · simp [lockAnswer, AsksAgain, hother]
  | _ => simp [lockAnswer, AsksAgain]

end Call

namespace Run

/-- What the machine tells the callers. -/
def told (again : String → LockOutcome) : List Timed → Option String → List Heard
  | [], _ => []
  | (_, c) :: asks, lock => ⟨c, c.lockAnswer again lock⟩ :: told again asks (c.lockAfter lock)

def lockAfter (asks : List Timed) (lock : Option String) : Option String :=
  asks.foldl (fun lock a => a.2.lockAfter lock) lock

/-- An engine that answers the calls of the lock as the machine does. `Keeps` says who has the lock in a state. -/
structure KeepsLock {σ : Type} (again : String → LockOutcome) (engine : Instant → Engine σ)
    (Keeps : Option String → σ → Prop) : Prop where
  answer (now : Instant) {c : Call} {lock : Option String} {s : σ} (hc : c.IsLegible) (hs : Keeps lock s) :
    (engine now c s).1.toOption = c.lockAnswer again lock
  keeps (now : Instant) {c : Call} {lock : Option String} {s : σ} (hc : c.IsLegible) (hs : Keeps lock s) :
    Keeps (c.lockAfter lock) (engine now c s).2

section

variable {σ : Type} {again : String → LockOutcome} {engine : Instant → Engine σ} {Keeps : Option String → σ → Prop}
  {asks : List Timed} {lock : Option String} {s : σ}

/-- Call after call, the machine's lock is the engine's. -/
theorem KeepsLock.after (h : KeepsLock again engine Keeps) (hasks : ∀ a ∈ asks, a.2.IsLegible) (hs : Keeps lock s) :
    Keeps (lockAfter asks lock) (stateAfter engine asks s) := by
  induction asks generalizing lock s with
  | nil => exact hs
  | cons a asks ih =>
    rw [List.forall_mem_cons] at hasks
    exact ih hasks.2 (h.keeps a.1 hasks.1 hs)

/-- Callers hear from the engine what the machine tells them. -/
theorem KeepsLock.heard_eq (h : KeepsLock again engine Keeps) (hasks : ∀ a ∈ asks, a.2.IsLegible) (hs : Keeps lock s) :
    heard engine asks s = told again asks lock := by
  induction asks generalizing lock s with
  | nil => rfl
  | cons a asks ih =>
    rw [List.forall_mem_cons] at hasks
    rw [heard, told, h.answer a.1 hasks.1 hs, ih hasks.2 (h.keeps a.1 hasks.1 hs)]

/-- What the machine tells a holder that asks again makes a difference exactly if one does. -/
theorem told_eq_iff :
    told .heldBy asks lock = told (fun _ => .acquired) asks lock ↔
      ∀ before now c rest, asks = before ++ (now, c) :: rest → ¬c.AsksAgain (lockAfter before lock) := by
  induction asks generalizing lock with
  | nil => simp [told]
  | cons a asks ih =>
    obtain ⟨now, c⟩ := a
    rw [told, told, List.cons.injEq, Heard.mk.injEq, heq_eq_eq, Call.lockAnswer_eq_iff, ih]
    constructor
    · rintro ⟨⟨-, hfirst⟩, hrest⟩ before now' c' rest hsplit
      obtain ⟨rfl, hnow⟩ | ⟨later, rfl, hlater⟩ := List.cons_eq_append_iff.1 hsplit
      · obtain ⟨hac, -⟩ := List.cons.inj hnow
        obtain ⟨-, rfl⟩ := Prod.mk.inj hac
        exact hfirst
      · exact hrest later now' c' rest hlater
    · intro h
      refine ⟨⟨rfl, h [] now c asks rfl⟩, fun before now' c' rest hsplit => ?_⟩
      exact h ((now, c) :: before) now' c' rest (by rw [hsplit]; rfl)

end

end Run

/-! ## Databases in files -/

namespace Sqlite

open Sql (Database cell)

/-- Who has the lock by the row of its table. -/
def lockHolder? (db : Database) : Option String := do
  let t ← db.table? lockTable.name
  let row ← t.rows.find? isLockRow
  match cell row 1 with
  | .text holder => some holder
  | _ => none

/-- The database has the two tables and nothing else leads to them, and the holder has the lock. -/
def KeepsBook (lock : Option String) (db : Database) : Prop := ∃ b : Book, b.lock = lock ∧ Represents (some b) db

variable {lock : Option String} {db : Database}

theorem KeepsBook.lockHolder? (h : KeepsBook lock db) : lockHolder? db = lock := by
  obtain ⟨b, hlock, hdb⟩ := h
  obtain ⟨rows, hrows, htable, -⟩ := Holds.lockTable? hdb.tables
  rw [Sqlite.lockHolder?, htable]
  rw [hlock] at hrows
  cases hrows <;> rfl

theorem keepsBook_ensureTables {s : Option Book} (h : Represents s db) :
    KeepsBook (Sqlite.lockHolder? (ensureTables db)) (ensureTables db) := by
  have hbook : KeepsBook (s.getD .empty).lock (ensureTables db) := ⟨_, rfl, h.ensureTables⟩
  rwa [hbook.lockHolder?]

/-- A book answers the calls of the lock as the machine does. -/
theorem step_of_isLocking {c : Call} (hc : c.isLocking = true) (works : Bool) (now : Instant) (b : Book) :
    ∃ b' : Book, b'.lock = c.lockAfter b.lock ∧
      Book.step works now c (some b) = (c.lockAnswer .heldBy b.lock, some b') := by
  cases c with
  | tryLock holder =>
    cases hlock : b.lock with
    | none => exact ⟨b.setLock (some holder), rfl, by simp only [Book.step, hlock]; rfl⟩
    | some other =>
      refine ⟨b, hlock, ?_⟩
      by_cases hother : other = holder
      · simp [Book.step, hlock, Call.lockAnswer, hother]
      · simp [Book.step, hlock, Call.lockAnswer, hother]
  | unlock holder =>
    refine ⟨_, ?_, rfl⟩
    by_cases hlock : b.lock = some holder
    · simp [Call.lockAfter, hlock, Book.setLock]
    · simp [Call.lockAfter, hlock]
  | forceUnlock => exact ⟨b.setLock none, rfl, rfl⟩
  | _ => simp [Call.isLocking] at hc

theorem faithful_of_isLocking {c : Call} (hc : c.isLocking = true) (now : Instant) {s : Option Book}
    (h : Represents s db) : Faithful .plain now c s db := by
  cases c with
  | tryLock holder => exact faithful_tryLock Executor.lawful_plain h holder
  | unlock holder => exact faithful_unlock Executor.lawful_plain h holder
  | forceUnlock => exact faithful_forceUnlock Executor.lawful_plain h
  | _ => simp [Call.isLocking] at hc

/-- A holder that asks a database in a file again is told that the lock is held, by itself. -/
theorem keepsLock : Run.KeepsLock .heldBy target KeepsBook where
  answer := by
    rintro now c lock db hc ⟨b, rfl, hdb⟩
    obtain ⟨b', -, hstep⟩ := step_of_isLocking hc.1 (worksIn .plain db c) now b
    exact (faithful_of_isLocking hc.1 now hdb).answer.trans (by rw [hstep])
  keeps := by
    rintro now c lock db hc ⟨b, rfl, hdb⟩
    obtain ⟨b', hb', hstep⟩ := step_of_isLocking hc.1 (worksIn .plain db c) now b
    refine ⟨b', hb', ?_⟩
    have hbook := (faithful_of_isLocking hc.1 now hdb).book
    rwa [hstep] at hbook

end Sqlite

/-! ## Servers -/

namespace Clickhouse

open Http (Reply Request)

/-- A server as an engine: each call is an exchange with it. -/
def served (c : Connection) (answer : Request → LockServer → Option Reply × LockServer) (now : Instant) :
    Run.Engine LockServer := fun call s => (engine c now call).play answer s

/-- The rows of the server tell who has the lock, and the name can be read. -/
def KeepsRows (lock : Option String) (s : LockServer) : Prop := s.Keeps lock ∧ ∀ holder ∈ lock, Legible holder

variable {c : Connection} {answer : Request → LockServer → Option Reply × LockServer}

theorem legible_lockAfter {call : Call} {lock : Option String} (hcall : call.IsLegible)
    (h : ∀ holder ∈ lock, Legible holder) : ∀ holder ∈ call.lockAfter lock, Legible holder := by
  cases call with
  | tryLock holder =>
    cases lock with
    | none => simpa [Call.lockAfter] using hcall.2 holder rfl
    | some other => exact h
  | unlock holder =>
    rw [Call.lockAfter]
    split
    · simp
    · exact h
  | forceUnlock => simp [Call.lockAfter]
  | _ => exact h

/-- The exchange of a call of the lock ends as the machine's call does. -/
theorem ends_engine (h : Proper c) (hserves : ServesLock c answer) (now : Instant) {call : Call} {lock : Option String}
    {s : LockServer} (hcall : call.IsLegible) (hs : KeepsRows lock s) :
    ∃ a, call.lockAnswer (fun _ => .acquired) lock = some a ∧
      Ends answer s (exchange c now call) a (call.lockAfter lock) := by
  cases call with
  | tryLock holder =>
    refine ⟨_, ?_, h.ends_tryLock hserves hs.1 hs.2 (hcall.2 holder rfl)⟩
    cases lock <;> rfl
  | unlock holder => exact ⟨(), rfl, h.ends_removeHolder hserves hs.1 holder⟩
  | forceUnlock => exact ⟨lock.isSome, rfl, h.ends_forceUnlock hserves hs.1 hs.2⟩
  | _ => simp [Call.IsLegible, Call.isLocking] at hcall

/-- A holder that asks a server again is told that it has the lock. -/
theorem keepsLock (h : Proper c) (hserves : ServesLock c answer) :
    Run.KeepsLock (fun _ => .acquired) (served c answer) KeepsRows where
  answer := by
    intro now call lock s hcall hs
    obtain ⟨a, ha, hends⟩ := ends_engine h hserves now hcall hs
    rw [ha, served, engine, hends.value]
    rfl
  keeps := by
    intro now call lock s hcall hs
    obtain ⟨a, -, hends⟩ := ends_engine h hserves now hcall hs
    exact ⟨hends.keeps, legible_lockAfter hcall hs.2⟩

end Clickhouse

/-! ## Both engines -/

open Clickhouse (LockServer ServesLock Proper Legible served)
open Http (Reply Request)
open Run (heard stateAfter)
open Sqlite (Book Represents ensureTables lockHolder? target)

/-- How the lock of a database in a file and the lock of a server compare at a call: who has it before and afterwards,
and what the caller hears from both. They differ only about a holder that asks again. -/
structure LocksCompare (c : Connection) (answer : Request → LockServer → Option Reply × LockServer) (now : Instant)
    (call : Call) (db : Sql.Database) (s : LockServer) : Prop where
  before : s.holders = (lockHolder? db).toList
  after : (served c answer now call s).2.holders = (lockHolder? (target now call db).2).toList
  same : ¬call.AsksAgain (lockHolder? db) →
    ∃ a, (target now call db).1 = .ok a ∧ (served c answer now call s).1 = .ok a
  again : ∀ holder, call = .tryLock holder → lockHolder? db = some holder →
    (target now (.tryLock holder) db).1 = .ok (.heldBy holder) ∧
      (served c answer now (.tryLock holder) s).1 = .ok .acquired

section

variable {c : Connection} {answer : Request → LockServer → Option Reply × LockServer} {asks : List Timed}

theorem ok_of_toOption {α : Type} {r : Except Fault α} {a : α} (h : r.toOption = some a) : r = .ok a := by
  cases r with
  | error f => simp [Except.toOption] at h
  | ok b => rw [Option.some.inj h]

/-- While both keep the same lock, it compares. -/
theorem locksCompare_of_keeps (hproper : Proper c) (hserves : ServesLock c answer) {call : Call}
    (hcall : call.IsLegible) {lock : Option String} {db : Sql.Database} {s : LockServer}
    (hdb : Sqlite.KeepsBook lock db) (hs : Clickhouse.KeepsRows lock s) (now : Instant) :
    LocksCompare c answer now call db s := by
  have hserver := Clickhouse.keepsLock hproper hserves
  obtain rfl := hdb.lockHolder?
  refine ⟨LockServer.keeps_iff.1 hs.1, ?_, fun hagain => ?_, ?_⟩
  · rw [(Sqlite.keepsLock.keeps now hcall hdb).lockHolder?]
    exact LockServer.keeps_iff.1 (hserver.keeps now hcall hs).1
  · obtain ⟨a, ha⟩ := Call.exists_lockAnswer hcall.1 .heldBy (lockHolder? db)
    have hsame := Call.lockAnswer_eq_iff.2 hagain
    exact ⟨a, ok_of_toOption ((Sqlite.keepsLock.answer now hcall hdb).trans ha),
      ok_of_toOption ((hserver.answer now hcall hs).trans (hsame.symm.trans ha))⟩
  · rintro holder rfl hlock
    have hfile := Sqlite.keepsLock.answer now hcall hdb
    have hrows := hserver.answer now hcall hs
    rw [hlock, Call.lockAnswer, if_pos rfl] at hfile hrows
    exact ⟨ok_of_toOption hfile, ok_of_toOption hrows⟩

/-- Both engines keep one lock: after every call it is held by the same holder, or by nobody, and callers hear the same
from both as long as no holder asks for the lock that it has. -/
theorem locks_agree_iff (hproper : Proper c) (hserves : ServesLock c answer) (hasks : ∀ a ∈ asks, a.2.IsLegible)
    {book : Option Book} {db : Sql.Database} (hdb : Represents book db) {s : LockServer}
    (hs : s.holders = (lockHolder? (ensureTables db)).toList)
    (hholder : ∀ holder ∈ lockHolder? (ensureTables db), Legible holder) :
    (∀ before now call rest, asks = before ++ (now, call) :: rest →
      LocksCompare c answer now call (stateAfter target before (ensureTables db))
        (stateAfter (served c answer) before s)) ∧
    (heard target asks (ensureTables db) = heard (served c answer) asks s ↔
      ∀ before now holder rest, asks = before ++ (now, .tryLock holder) :: rest →
        lockHolder? (stateAfter target before (ensureTables db)) ≠ some holder) := by
  have hfile := Sqlite.keepsBook_ensureTables hdb
  have hrows : Clickhouse.KeepsRows (lockHolder? (ensureTables db)) s := ⟨LockServer.keeps_iff.2 hs, hholder⟩
  have hserver := Clickhouse.keepsLock hproper hserves
  have hbefore {before rest : List Timed} (hsplit : asks = before ++ rest) : ∀ a ∈ before, a.2.IsLegible :=
    fun a ha => hasks a (hsplit ▸ List.mem_append_left _ ha)
  constructor
  · intro before now call rest hsplit
    have hcall : call.IsLegible := hasks (now, call) (hsplit ▸ List.mem_append_right _ List.mem_cons_self)
    exact locksCompare_of_keeps hproper hserves hcall (Sqlite.keepsLock.after (hbefore hsplit) hfile)
      (hserver.after (hbefore hsplit) hrows) now
  · rw [Sqlite.keepsLock.heard_eq hasks hfile, hserver.heard_eq hasks hrows, Run.told_eq_iff]
    constructor
    · intro h before now holder rest hsplit hlock
      rw [(Sqlite.keepsLock.after (hbefore hsplit) hfile).lockHolder?] at hlock
      exact h before now _ rest hsplit ⟨holder, rfl, hlock⟩
    · rintro h before now call rest hsplit ⟨holder, rfl, hlock⟩
      rw [← (Sqlite.keepsLock.after (hbefore hsplit) hfile).lockHolder?] at hlock
      exact h before now holder rest hsplit hlock

end

/-! ## A holder that asks again -/

open Clickhouse (localServer proper_localServer servesLock_answer legible_of_size)

theorem isLegible_tryLock {holder : String} (h : Legible holder) : (Call.tryLock holder).IsLegible :=
  ⟨rfl, fun _ heq => Call.tryLock.inj heq ▸ h⟩

theorem legible_ann : Legible "ann" := legible_of_size (by decide) (by decide +kernel)

theorem legible_bob : Legible "bob" := legible_of_size (by decide) (by decide +kernel)

theorem lockHolder?_empty : lockHolder? (ensureTables .empty) = none := by decide +kernel

/-- Two holders ask for the lock, also for the lock that they have, and give back their own and the other's. -/
theorem locks_agree_iff_twoHolders :
    let asks : List Timed := [.tryLock "ann", .tryLock "bob", .unlock "bob", .tryLock "ann", .unlock "ann",
      .tryLock "bob", .forceUnlock, .forceUnlock].map fun call => (⟨0, 0⟩, call)
    let answer := LockServer.answer localServer
    Proper localServer ∧ ServesLock localServer answer ∧ (∀ a ∈ asks, a.2.IsLegible) ∧ Represents none .empty ∧
    (⟨[], 0⟩ : LockServer).holders = (lockHolder? (ensureTables .empty)).toList ∧
    (∀ holder ∈ lockHolder? (ensureTables .empty), Legible holder) ∧
    (∀ before now call rest, asks = before ++ (now, call) :: rest →
      LocksCompare localServer answer now call (stateAfter target before (ensureTables .empty))
        (stateAfter (served localServer answer) before ⟨[], 0⟩)) ∧
    (heard target asks (ensureTables .empty) = heard (served localServer answer) asks ⟨[], 0⟩ ↔
      ∀ before now holder rest, asks = before ++ (now, .tryLock holder) :: rest →
        lockHolder? (stateAfter target before (ensureTables .empty)) ≠ some holder) := by
  intro asks answer
  have hasks : ∀ a ∈ asks, a.2.IsLegible := by
    simp only [asks, List.map_cons, List.map_nil, List.forall_mem_cons]
    exact ⟨isLegible_tryLock legible_ann, isLegible_tryLock legible_bob, ⟨rfl, by simp⟩, isLegible_tryLock legible_ann,
      ⟨rfl, by simp⟩, isLegible_tryLock legible_bob, ⟨rfl, by simp⟩, ⟨rfl, by simp⟩, by simp⟩
  have hserves := servesLock_answer localServer
  have hholders : (⟨[], 0⟩ : LockServer).holders = (lockHolder? (ensureTables .empty)).toList := by
    rw [lockHolder?_empty]
    rfl
  have hlegible : ∀ holder ∈ lockHolder? (ensureTables .empty), Legible holder := by simp [lockHolder?_empty]
  exact ⟨proper_localServer, hserves, hasks, Sqlite.represents_empty, hholders, hlegible,
    locks_agree_iff proper_localServer hserves hasks Sqlite.represents_empty hholders hlegible⟩

/-- Callers do not always hear the same from both engines. -/
theorem not_locks_agree : ¬∀ (c : Connection) (answer : Request → LockServer → Option Reply × LockServer)
    (asks : List Timed) (book : Option Book) (db : Sql.Database) (s : LockServer), Proper c → ServesLock c answer →
      (∀ a ∈ asks, a.2.IsLegible) → Represents book db → s.holders = (lockHolder? (ensureTables db)).toList →
        (∀ holder ∈ lockHolder? (ensureTables db), Legible holder) →
          heard target asks (ensureTables db) = heard (served c answer) asks s := by
  intro h
  let asks : List Timed := [.tryLock "ann", .tryLock "ann"].map fun call => (⟨0, 0⟩, call)
  have hasks : ∀ a ∈ asks, a.2.IsLegible := by simp [asks, isLegible_tryLock legible_ann]
  have hserves := servesLock_answer localServer
  have hsame := h localServer (LockServer.answer localServer) asks none .empty ⟨[], 0⟩ proper_localServer hserves hasks
    Sqlite.represents_empty (by rw [lockHolder?_empty]; rfl) (by simp [lockHolder?_empty])
  have hserver : Clickhouse.KeepsRows none ⟨[], 0⟩ := ⟨rfl, by simp⟩
  rw [Sqlite.keepsLock.heard_eq hasks (Sqlite.keepsBook_ensureTables Sqlite.represents_empty),
    (Clickhouse.keepsLock proper_localServer hserves).heard_eq hasks hserver, lockHolder?_empty,
    Run.told_eq_iff] at hsame
  exact hsame [(⟨0, 0⟩, .tryLock "ann")] ⟨0, 0⟩ (.tryLock "ann") [] rfl ⟨"ann", rfl, rfl⟩

end SchemaMigration
