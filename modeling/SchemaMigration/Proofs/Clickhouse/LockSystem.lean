import Mathlib.Data.List.Sort
import SchemaMigration.Proofs.Clickhouse.LockDialogue

/-!
# Contenders for a lock

`LockServer`  : the table of the lock and the clock of its server.
`LockServer.Leads` : the row that is named first.
`Contender`   : whether a client has the lock, and the dialogue that it is in.
`LockSystem`  : a server and any number of clients, one for each name.
`step?`       : what a move makes of a system. The server answers one query at a time, in any order.
`Reachable`   : the systems that moves lead to.
-/

namespace SchemaMigration.Clickhouse

set_option autoImplicit false

open Http (Request Reply)

/-! ## The server -/

/-- A row of the table of the lock: when it was added, in milliseconds, and the name under which. -/
structure LockRow where
  time : Nat
  holder : String
  deriving DecidableEq, Repr

/-- The order in which rows are named: by time, those of one time by name. -/
def LockRow.Le (a b : LockRow) : Prop := a.time < b.time ∨ a.time = b.time ∧ a.holder ≤ b.holder

instance : DecidableRel LockRow.Le := fun a b =>
  inferInstanceAs (Decidable (a.time < b.time ∨ a.time = b.time ∧ a.holder ≤ b.holder))

theorem LockRow.le_refl (a : LockRow) : a.Le a := .inr ⟨rfl, String.le_refl _⟩

theorem LockRow.le_total (a b : LockRow) : a.Le b ∨ b.Le a := by
  obtain h | h | h := Nat.lt_trichotomy a.time b.time
  · exact .inl (.inl h)
  · obtain hab | hba := String.le_total a.holder b.holder
    · exact .inl (.inr ⟨h, hab⟩)
    · exact .inr (.inr ⟨h.symm, hba⟩)
  · exact .inr (.inl h)

theorem LockRow.le_trans {a b d : LockRow} (hab : a.Le b) (hbd : b.Le d) : a.Le d := by
  obtain h | ⟨h, hn⟩ := hab
  · obtain h' | ⟨h', -⟩ := hbd
    · exact .inl (by omega)
    · exact .inl (by omega)
  · obtain h' | ⟨h', hn'⟩ := hbd
    · exact .inl (by omega)
    · exact .inr ⟨by omega, String.le_trans hn hn'⟩

theorem LockRow.le_antisymm {a b : LockRow} (hab : a.Le b) (hba : b.Le a) : a = b := by
  obtain h | ⟨h, hn⟩ := hab
  · obtain h' | ⟨h', -⟩ := hba <;> omega
  · obtain h' | ⟨-, hn'⟩ := hba
    · omega
    · obtain ⟨t, x⟩ := a
      obtain ⟨u, y⟩ := b
      obtain rfl : t = u := h
      obtain rfl : x = y := String.le_antisymm hn hn'
      rfl

instance : Std.Total LockRow.Le := ⟨LockRow.le_total⟩

instance : IsTrans LockRow LockRow.Le := ⟨fun _ _ _ => LockRow.le_trans⟩

/-- The table of the lock, and the clock of its server in milliseconds. -/
structure LockServer where
  rows : List LockRow
  clock : Nat
  deriving DecidableEq, Repr

namespace LockServer

/-- The names in the table in the order in which the server names them. -/
def holders (s : LockServer) : List String := (s.rows.insertionSort LockRow.Le).map (·.holder)

/-- The server after a query, and the bytes of the rows that it replies. -/
def perform (s : LockServer) : LockQuery → LockServer × List UInt8
  | .read => (s, s.holders.flatMap textBytes)
  | .add h => ({ s with rows := s.rows ++ [⟨s.clock, h⟩] }, [])
  | .remove h => ({ s with rows := s.rows.filter (·.holder != h) }, [])

theorem perform_add_reply (s : LockServer) (h : String) : (s.perform (.add h)).2 = [] := rfl

theorem perform_remove_reply (s : LockServer) (h : String) : (s.perform (.remove h)).2 = [] := rfl

/-- The row comes before all others. -/
def Leads (s : LockServer) (row : LockRow) : Prop := row ∈ s.rows ∧ ∀ r ∈ s.rows, row.Le r

variable {s : LockServer} {row : LockRow}

theorem Leads.unique {a b : LockRow} (ha : s.Leads a) (hb : s.Leads b) : a = b :=
  LockRow.le_antisymm (ha.2 b hb.1) (hb.2 a ha.1)

theorem leads_of_insertionSort {rest : List LockRow} (h : s.rows.insertionSort LockRow.Le = row :: rest) :
    s.Leads row := by
  have hsorted := List.pairwise_insertionSort LockRow.Le s.rows
  have hmem : ∀ r, r ∈ row :: rest ↔ r ∈ s.rows := fun r => h ▸ List.mem_insertionSort LockRow.Le
  rw [h, List.pairwise_cons] at hsorted
  refine ⟨(hmem row).1 List.mem_cons_self, fun r hr => ?_⟩
  rcases List.mem_cons.1 ((hmem r).2 hr) with rfl | hr
  · exact LockRow.le_refl r
  · exact hsorted.1 r hr

theorem Leads.head?_holders (h : s.Leads row) : s.holders.head? = some row.holder := by
  rw [holders]
  cases hl : s.rows.insertionSort LockRow.Le with
  | nil =>
    have hmem := (List.mem_insertionSort LockRow.Le).2 h.1
    simp [hl] at hmem
  | cons first rest =>
    rw [h.unique (leads_of_insertionSort hl)]
    rfl

theorem leads_of_head?_holders {h : String} (hh : s.holders.head? = some h) : ∃ t, s.Leads ⟨t, h⟩ := by
  rw [holders] at hh
  cases hl : s.rows.insertionSort LockRow.Le with
  | nil => simp [hl] at hh
  | cons first rest =>
    rw [hl] at hh
    obtain rfl : first.holder = h := Option.some.inj hh
    exact ⟨first.time, leads_of_insertionSort hl⟩

theorem Leads.remove {k : String} (h : s.Leads row) (hk : k ≠ row.holder) : (s.perform (.remove k)).1.Leads row := by
  refine ⟨List.mem_filter.2 ⟨h.1, by simpa using Ne.symm hk⟩, fun r hr => ?_⟩
  exact h.2 r (List.mem_filter.1 hr).1

/-- The leader stays when another adds its row later, or in the same millisecond under a name that comes after. -/
theorem Leads.add {k : String} (h : s.Leads row) (hpast : row.time ≤ s.clock)
    (hk : ¬(row.time = s.clock ∧ k < row.holder)) : (s.perform (.add k)).1.Leads row := by
  refine ⟨List.mem_append_left _ h.1, fun r hr => ?_⟩
  obtain hr | hr := List.mem_append.1 hr
  · exact h.2 r hr
  · obtain rfl := List.mem_singleton.1 hr
    obtain hlt | heq := Nat.lt_or_eq_of_le hpast
    · exact .inl hlt
    · exact .inr ⟨heq, String.not_lt.1 fun hlt => hk ⟨heq, hlt⟩⟩

/-- A row that is added in the millisecond of the leader under a name that comes before leads itself. -/
theorem Leads.overtaken {h k : String} (hleads : s.Leads ⟨s.clock, h⟩) (hlt : k < h) :
    (s.perform (.add k)).1.Leads ⟨s.clock, k⟩ := by
  refine ⟨List.mem_append_right _ List.mem_cons_self, fun r hr => ?_⟩
  have hkh : LockRow.Le ⟨s.clock, k⟩ ⟨s.clock, h⟩ := .inr ⟨rfl, String.not_lt.1 (String.lt_asymm hlt)⟩
  obtain hr | hr := List.mem_append.1 hr
  · exact LockRow.le_trans hkh (hleads.2 r hr)
  · obtain rfl := List.mem_singleton.1 hr
    exact LockRow.le_refl _

theorem past_perform (hpast : ∀ r ∈ s.rows, r.time ≤ s.clock) (x : LockQuery) :
    ∀ r ∈ (s.perform x).1.rows, r.time ≤ (s.perform x).1.clock := by
  cases x with
  | read => exact hpast
  | add k =>
    intro r hr
    obtain hr | hr := List.mem_append.1 hr
    · exact hpast r hr
    · rw [List.mem_singleton.1 hr]
      exact Nat.le_refl _
  | remove k => exact fun r hr => hpast r (List.mem_filter.1 hr).1

end LockServer

/-! ## Clients -/

abbrev Talk (α : Type) := Dialogue Request (fun _ => Option Reply) (Except Fault α)

/-- The call that a client is in, and what is left of its dialogue. -/
inductive Task
  | asking (d : Talk LockOutcome)
  | releasing (d : Talk Unit)

namespace Task

/-- The request that is sent next. -/
def request? : Task → Option Request
  | asking (.put q _) | releasing (.put q _) => some q
  | _ => none

/-- The task once the reply to its request is there. -/
def hear (reply : Option Reply) : Task → Task
  | asking (.put _ next) => asking (next reply)
  | releasing (.put _ next) => releasing (next reply)
  | t => t

end Task

/-- A client: whether it has been told that it has the lock and has not begun to give it back since, and the call that
it is in. -/
structure Contender where
  holds : Bool
  task : Option Task

namespace Contender

def idle : Contender := ⟨false, none⟩

/-- The client after a call has ended. -/
def finish? : Contender → Option Contender
  | ⟨holds, some (.asking (.done r))⟩ => some ⟨holds || r.toOption == some .acquired, none⟩
  | ⟨holds, some (.releasing (.done _))⟩ => some ⟨holds, none⟩
  | _ => none

/-- The client has the lock, or has been told so in the call that it is in. -/
def Wins (x : Contender) : Prop := x.holds = true ∨ x.task = some (.asking (.done (.ok .acquired)))

end Contender

/-! ## Systems -/

/-- A server and its clients, one for each name. -/
structure LockSystem where
  server : LockServer
  contenders : String → Contender

namespace LockSystem

def put (s : LockSystem) (h : String) (x : Contender) : LockSystem :=
  { s with contenders := fun k => if k = h then x else s.contenders k }

@[simp] theorem contenders_put_self (s : LockSystem) (h : String) (x : Contender) : (s.put h x).contenders h = x :=
  if_pos rfl

theorem contenders_put_of_ne {h k : String} (s : LockSystem) (x : Contender) (hk : k ≠ h) :
    (s.put h x).contenders k = s.contenders k := if_neg hk

def start (server : LockServer) : LockSystem := ⟨server, fun _ => .idle⟩

end LockSystem

/-- What can happen next: time goes on, a client asks for the lock or gives it back, the server answers the query that a
client has sent, or a call ends. -/
inductive Move
  | wait (milliseconds : Nat)
  | ask (h : String)
  | release (h : String)
  | send (h : String) (x : LockQuery)
  | finish (h : String)
  deriving DecidableEq, Repr

/-- The system after a move, if the move can happen. -/
def step? (c : Connection) (s : LockSystem) : Move → Option LockSystem
  | .wait n => some { s with server := { s.server with clock := s.server.clock + n } }
  | .ask h =>
    match (s.contenders h).task with
    | none => some (s.put h { s.contenders h with task := some (.asking (tryLock c h).run) })
    | some _ => none
  | .release h =>
    match (s.contenders h).task with
    | none => some (s.put h ⟨false, some (.releasing (removeHolder c h).run)⟩)
    | some _ => none
  | .send h x =>
    match (s.contenders h).task with
    | none => none
    | some t =>
      if t.request?.any fun q => x.sql? c == some q.sql then
        let (server, bytes) := s.server.perform x
        some ({ s with server }.put h { s.contenders h with task := some (t.hear (goodReply bytes)) })
      else none
  | .finish h => (s.contenders h).finish?.map (s.put h)

/-- The system after several moves, if they can happen. -/
def steps? (c : Connection) (s : LockSystem) : List Move → Option LockSystem
  | [] => some s
  | m :: ms => (step? c s m).bind fun t => steps? c t ms

/-- The systems that allowed moves lead to, whatever rows were left in the table at the beginning. -/
inductive Reachable (c : Connection) (allowed : LockSystem → Move → Prop) : LockSystem → Prop
  | start {server : LockServer} (h : ∀ r ∈ server.rows, r.time ≤ server.clock) : Reachable c allowed (.start server)
  | step {s t : LockSystem} {m : Move} (h : Reachable c allowed s) (hm : allowed s m) (ht : step? c s m = some t) :
      Reachable c allowed t

theorem steps?_append (c : Connection) (s : LockSystem) (ms ns : List Move) :
    steps? c s (ms ++ ns) = (steps? c s ms).bind fun t => steps? c t ns := by
  induction ms generalizing s with
  | nil => rfl
  | cons m ms ih =>
    rw [List.cons_append, steps?, steps?, Option.bind_assoc]
    congr 1
    funext t
    exact ih t

/-- Moves that are allowed wherever they happen lead on. -/
theorem Reachable.steps {c : Connection} {allowed : LockSystem → Move → Prop} {s t : LockSystem} {ms : List Move}
    (hs : Reachable c allowed s) (hms : ∀ m ∈ ms, ∀ r, allowed r m) (ht : steps? c s ms = some t) :
    Reachable c allowed t := by
  induction ms generalizing s with
  | nil =>
    obtain rfl := Option.some.inj ht
    exact hs
  | cons m ms ih =>
    obtain ⟨r, hr, ht⟩ := Option.bind_eq_some_iff.1 ht
    rw [List.forall_mem_cons] at hms
    exact ih (hs.step (hms.1 s) hr) hms.2 ht

/-- The move adds a row in the very millisecond of the row that has won, under a name that comes before its name. -/
def LockSystem.Overtakes (s : LockSystem) (m : Move) : Prop :=
  ∃ h k, m = .send k (.add k) ∧ (s.contenders h).Wins ∧ s.server.Leads ⟨s.server.clock, h⟩ ∧ k < h

end SchemaMigration.Clickhouse
