import SchemaMigration.Proofs.Clickhouse.LockSystem

/-!
# Who has the lock

`Asking`, `Releasing` : what is left of a client's call.
`Inv`                 : whoever has won leads the table, and no row is from the future.
`inv_step`            : every move that does not overtake keeps it.
`both_hold_of_overtakes` : one that does can lead to two clients with the lock.
`exclusive_or_overtaken` : no two clients have the lock unless one was overtaken, and then they may.

Rows of one millisecond are named in the order of their names, which says nothing about who came first: a client that
adds its row late can find itself in front of one that has already won.
-/

namespace SchemaMigration.Clickhouse

set_option autoImplicit false

open Http (Request Reply)

/-! ## Where a client is -/

/-- The dialogues in which a client asks for the lock. Only one that has not got it yet goes beyond its first query. -/
inductive Asking (c : Connection) (h : String) : Bool → Talk LockOutcome → Prop
  | start (holds : Bool) : Asking c h holds (tryLock c h).run
  | enter (hread : CanRead c) : Asking c h false (enter c h).run
  | settle : Asking c h false (settle c h).run
  | withdraw (first : String) : Asking c h false (withdraw c h first).run
  | done (holds : Bool) (r : Except Fault LockOutcome) : Asking c h holds (.done r)

/-- The dialogues in which a client gives the lock back. -/
inductive Releasing (c : Connection) (h : String) : Talk Unit → Prop
  | start : Releasing c h (removeHolder c h).run
  | done (r : Except Fault Unit) : Releasing c h (.done r)

/-- The client is in one of the dialogues of its calls. -/
def Contender.Sound (c : Connection) (h : String) (x : Contender) : Prop :=
  match x.task with
  | none => True
  | some (.asking d) => Asking c h x.holds d
  | some (.releasing d) => x.holds = false ∧ Releasing c h d

/-- Whoever has won leads the table, and no row is from the future. -/
structure Inv (c : Connection) (s : LockSystem) : Prop where
  sound : ∀ h, (s.contenders h).Sound c h
  past : ∀ r ∈ s.server.rows, r.time ≤ s.server.clock
  leads : ∀ h, (s.contenders h).Wins → ∃ t, s.server.Leads ⟨t, h⟩

theorem Inv.unique {c : Connection} {s : LockSystem} (hi : Inv c s) {h k : String} (hh : (s.contenders h).Wins)
    (hk : (s.contenders k).Wins) : h = k := by
  obtain ⟨t, ht⟩ := hi.leads h hh
  obtain ⟨u, hu⟩ := hi.leads k hk
  exact congrArg LockRow.holder (ht.unique hu)

/-! ## Queries and their replies -/

/-- An exchange that begins with a query does not end well before its reply. -/
theorem Poses.run_bind_ne {α β : Type} {x : Exchange Fault α} {query : Option String}
    {hear : Option Reply → Except Fault α} (hx : Poses x query hear) (f : α → Exchange Fault β) (b : β) :
    (x >>= f).run ≠ .done (.ok b) := by
  obtain ⟨e, he⟩ | ⟨q, -, hq⟩ := hx
  · rw [run_bind, he]
    simp [Dialogue.bind, ExceptT.bindCont, pure]
  · rw [run_bind, hq]
    simp [Dialogue.bind]

variable {c : Connection} {h : String}

theorem hear_read (server : LockServer) {α : Type} (f : List String → Exchange Fault α) :
    ExceptT.bindCont f (hearHolders (goodReply (server.perform .read).2)) = (f server.holders).run ∨
      ∃ e, ExceptT.bindCont f (hearHolders (goodReply (server.perform .read).2)) = .done (.error e) := by
  have hread : (server.perform .read).2 = server.holders.flatMap textBytes := rfl
  rw [hread]
  obtain h | ⟨e, h⟩ := hearHolders_names server.holders
  · rw [h]
    exact .inl rfl
  · rw [h]
    exact .inr ⟨e, rfl⟩

theorem not_holds_of_no_holders {holds : Bool} {server : LockServer} (hleads : holds = true → ∃ t, server.Leads ⟨t, h⟩)
    (hnone : server.holders.head? = none) : holds = false := by
  cases holds with
  | false => rfl
  | true =>
    obtain ⟨t, ht⟩ := hleads rfl
    simp [ht.head?_holders] at hnone

theorem run_pure {α : Type} (a : α) : (pure a : Exchange Fault α).run = .done (.ok a) := rfl

theorem run_throw {α : Type} (f : Fault) : (throw f : Exchange Fault α).run = .done (.error f) := rfl

/-- A dialogue in which a client asks for the lock, and in which it has been told that it has it only if its row leads. -/
def Fair (c : Connection) (h : String) (holds : Bool) (server : LockServer) (d : Talk LockOutcome) : Prop :=
  Asking c h holds d ∧ (d = .done (.ok .acquired) → ∃ t, server.Leads ⟨t, h⟩)

theorem Fair.of_ne {holds : Bool} {server : LockServer} {d : Talk LockOutcome} (hd : Asking c h holds d)
    (hne : d ≠ .done (.ok .acquired)) : Fair c h holds server d :=
  ⟨hd, fun hacquired => absurd hacquired hne⟩

theorem fair_consider {holds : Bool} {server : LockServer} (hread : CanRead c)
    (hleads : holds = true → ∃ t, server.Leads ⟨t, h⟩) :
    Fair c h holds server (consider c h server.holders).run := by
  unfold consider
  cases hhead : server.holders.head? with
  | some first =>
    refine ⟨.done _ _, fun hacquired => ?_⟩
    rw [run_pure] at hacquired
    by_cases hfirst : first = h
    · exact LockServer.leads_of_head?_holders (hfirst ▸ hhead)
    · simp [hfirst] at hacquired
  | none =>
    obtain rfl := not_holds_of_no_holders hleads hhead
    exact .of_ne (.enter hread) ((poses_addHolder c h).run_bind_ne _ _)

theorem fair_judge (server : LockServer) : Fair c h false server (judge c h server.holders).run := by
  unfold judge
  cases hhead : server.holders.head? with
  | some first =>
    by_cases hfirst : first = h
    · have hleads := LockServer.leads_of_head?_holders (hfirst ▸ hhead)
      simp only [hfirst, beq_self_eq_true, if_true]
      exact ⟨.done _ _, fun _ => hleads⟩
    · simp only [beq_iff_eq, hfirst, if_false]
      exact .of_ne (.withdraw first) ((poses_removeHolder c h).run_bind_ne _ _)
  | none =>
    refine .of_ne (.done _ _) ?_
    rw [run_throw]
    simp

/-- A client that does not understand the names of the holders has not got the lock. -/
theorem Fair.hear {holds : Bool} {server : LockServer} {f : List String → Exchange Fault LockOutcome}
    (hf : Fair c h holds server (f server.holders).run) :
    Fair c h holds server (ExceptT.bindCont f (hearHolders (goodReply (server.perform .read).2))) := by
  obtain hheard | ⟨e, hheard⟩ := hear_read server f
  · rw [hheard]
    exact hf
  · rw [hheard]
    exact .of_ne (.done _ _) (by simp)

/-- The four queries in which a client asks for the lock, and how it goes on from their replies. -/
theorem asking_put {holds : Bool} {q : Request} {next : Option Reply → Talk LockOutcome}
    (ha : Asking c h holds (.put q next)) :
    (CanRead c ∧ LockQuery.sql? c .read = some q.sql ∧
        ∀ reply, next reply = ExceptT.bindCont (consider c h) (hearHolders reply)) ∨
      (holds = false ∧ CanRead c ∧ LockQuery.sql? c (.add h) = some q.sql ∧
        ∀ reply, next reply = ExceptT.bindCont (fun _ => settle c h) (hearDone "failed to acquire lock: " reply)) ∨
      (holds = false ∧ LockQuery.sql? c .read = some q.sql ∧
        ∀ reply, next reply = ExceptT.bindCont (judge c h) (hearHolders reply)) ∨
      (holds = false ∧ LockQuery.sql? c (.remove h) = some q.sql ∧ ∃ first,
        ∀ reply, next reply =
          ExceptT.bindCont (fun _ => pure (.heldBy first)) (hearDone "failed to release lock: " reply)) := by
  -- No constructor of Asking shows its dialogue as a query, so the two are told apart by an equation.
  obtain ⟨d, hd⟩ : ∃ d : Talk LockOutcome, d = .put q next := ⟨_, rfl⟩
  rw [← hd] at ha
  cases ha with
  | done r => simp at hd
  | start =>
    obtain ⟨hquery, hnext⟩ := (poses_lockHolders c).put_bind (f := consider c h) hd
    exact .inl ⟨canRead_of_put (f := consider c h) hd, hquery, hnext⟩
  | enter hread =>
    obtain ⟨hquery, hnext⟩ := (poses_addHolder c h).put_bind (f := fun _ => settle c h) hd
    exact .inr (.inl ⟨rfl, hread, hquery, hnext⟩)
  | settle =>
    obtain ⟨hquery, hnext⟩ := (poses_lockHolders c).put_bind (f := judge c h) hd
    exact .inr (.inr (.inl ⟨rfl, hquery, hnext⟩))
  | withdraw first =>
    rw [withdraw] at hd
    obtain ⟨hquery, hnext⟩ := (poses_removeHolder c h).put_bind hd
    exact .inr (.inr (.inr ⟨rfl, hquery, first, hnext⟩))

/-- What the reply to a query makes of the client that asked, and which queries these are. -/
theorem asking_send {holds : Bool} {q : Request} {next : Option Reply → Talk LockOutcome} {x : LockQuery}
    {server : LockServer} (ha : Asking c h holds (.put q next)) (hleads : holds = true → ∃ t, server.Leads ⟨t, h⟩)
    (hx : x.sql? c = some q.sql) :
    Fair c h holds (server.perform x).1 (next (goodReply (server.perform x).2)) ∧
      (x = .read ∨ holds = false ∧ (x = .add h ∨ x = .remove h)) := by
  obtain ⟨hread, hquery, hnext⟩ | ⟨rfl, hread, hquery, hnext⟩ | ⟨rfl, hquery, hnext⟩ | ⟨rfl, hquery, first, hnext⟩ :=
    asking_put ha
  all_goals obtain rfl := sql?_injective hx hquery
  · rw [hnext]
    exact ⟨(fair_consider hread hleads).hear, .inl rfl⟩
  · rw [hnext, LockServer.perform_add_reply, hearDone_good]
    exact ⟨.of_ne .settle ((poses_lockHolders c).run_bind_ne _ _), .inr ⟨rfl, .inl rfl⟩⟩
  · rw [hnext]
    exact ⟨(fair_judge server).hear, .inl rfl⟩
  · rw [hnext, LockServer.perform_remove_reply, hearDone_good]
    refine ⟨.of_ne (.done _ _) fun hheld => ?_, .inr ⟨rfl, .inr rfl⟩⟩
    change (pure (.heldBy first) : Exchange Fault LockOutcome).run = _ at hheld
    rw [run_pure] at hheld
    simp at hheld

theorem releasing_send {q : Request} {next : Option Reply → Talk Unit} {x : LockQuery}
    (ha : Releasing c h (.put q next)) (hx : x.sql? c = some q.sql) (reply : Option Reply) :
    Releasing c h (next reply) ∧ x = .remove h := by
  obtain ⟨d, hd⟩ : ∃ d : Talk Unit, d = .put q next := ⟨_, rfl⟩
  rw [← hd] at ha
  cases ha with
  | done r => simp at hd
  | start =>
    obtain ⟨e, he⟩ | ⟨p, hp, hput⟩ := poses_removeHolder c h
    · simp [he] at hd
    · rw [hput] at hd
      injection hd with hpq hnext
      subst hpq hnext
      exact ⟨.done _, sql?_injective hx hp⟩

/-! ## Moves -/

variable {s t : LockSystem}

/-- A client may go on as it likes as long as it has won only with the leading row. -/
theorem Inv.put {x : Contender} (hi : Inv c s) (hsound : x.Sound c h)
    (hleads : x.Wins → ∃ t, s.server.Leads ⟨t, h⟩) : Inv c (s.put h x) := by
  refine ⟨fun k => ?_, hi.past, fun k hk => ?_⟩
  · by_cases hkh : k = h
    · subst hkh
      rw [LockSystem.contenders_put_self]
      exact hsound
    · rw [LockSystem.contenders_put_of_ne s x hkh]
      exact hi.sound k
  · by_cases hkh : k = h
    · subst hkh
      rw [LockSystem.contenders_put_self] at hk
      exact hleads hk
    · rw [LockSystem.contenders_put_of_ne s x hkh] at hk
      exact hi.leads k hk

theorem not_wins_releasing (d : Talk Unit) : ¬Contender.Wins ⟨false, some (.releasing d)⟩ := by
  simp [Contender.Wins]

/-- Whoever has won keeps the lead when another sends a query that does not overtake. -/
theorem leads_perform {x : LockQuery} {k : String} {time : Nat} (hi : Inv c s) (hwins : (s.contenders h).Wins)
    (hleads : s.server.Leads ⟨time, h⟩) (hkh : k ≠ h) (hx : x = .read ∨ x = .add k ∨ x = .remove k)
    (hno : ¬s.Overtakes (.send k x)) : (s.server.perform x).1.Leads ⟨time, h⟩ := by
  obtain rfl | rfl | rfl := hx
  · exact hleads
  · refine hleads.add (hi.past _ hleads.1) fun ⟨htime, hlt⟩ => hno ⟨h, k, rfl, hwins, ?_, hlt⟩
    have hclock : time = s.server.clock := htime
    rwa [hclock] at hleads
  · exact hleads.remove hkh

theorem Inv.send {x : LockQuery} {y : Contender} (hi : Inv c s) (hsound : y.Sound c h)
    (hwins : y.Wins → ∃ t, (s.server.perform x).1.Leads ⟨t, h⟩) (hx : x = .read ∨ x = .add h ∨ x = .remove h)
    (hno : ¬s.Overtakes (.send h x)) : Inv c ({ s with server := (s.server.perform x).1 }.put h y) := by
  refine ⟨fun k => ?_, LockServer.past_perform hi.past x, fun k hk => ?_⟩
  · by_cases hkh : k = h
    · subst hkh
      rw [LockSystem.contenders_put_self]
      exact hsound
    · rw [LockSystem.contenders_put_of_ne _ y hkh]
      exact hi.sound k
  · by_cases hkh : k = h
    · subst hkh
      rw [LockSystem.contenders_put_self] at hk
      exact hwins hk
    · rw [LockSystem.contenders_put_of_ne _ y hkh] at hk
      obtain ⟨time, hleads⟩ := hi.leads k hk
      exact ⟨time, leads_perform hi hk hleads (Ne.symm hkh) hx hno⟩

/-- What becomes of a client when it hears the reply to its query. -/
theorem sound_hear {x : LockQuery} {q : Request} {holds : Bool} {task : Task} (hi : Inv c s)
    (hc : s.contenders h = ⟨holds, some task⟩) (hq : task.request? = some q) (hx : x.sql? c = some q.sql) :
    let y : Contender := ⟨holds, some (task.hear (goodReply (s.server.perform x).2))⟩
    y.Sound c h ∧ (y.Wins → ∃ t, (s.server.perform x).1.Leads ⟨t, h⟩) ∧ (x = .read ∨ x = .add h ∨ x = .remove h) := by
  have hsound := hi.sound h
  have hleads := hi.leads h
  rw [hc] at hsound hleads
  rcases task with ⟨_ | ⟨p, next⟩⟩ | ⟨_ | ⟨p, next⟩⟩
  · simp [Task.request?] at hq
  · obtain rfl : p = q := Option.some.inj hq
    obtain ⟨⟨hasking, hacquired⟩, hkinds⟩ := asking_send hsound (fun hholds => hleads (.inl hholds)) hx
    refine ⟨hasking, fun hwins => ?_, hkinds.imp_right And.right⟩
    obtain hholds | htask := hwins
    · -- Only a client without the lock changes the table, so the one with it sees its lead unchanged.
      obtain rfl | ⟨rfl, -⟩ := hkinds
      · exact hleads (.inl hholds)
      · simp at hholds
    · exact hacquired (by simpa [Task.hear] using htask)
  · simp [Task.request?] at hq
  · obtain rfl : p = q := Option.some.inj hq
    obtain ⟨rfl, hreleasing⟩ := hsound
    obtain ⟨hnext, rfl⟩ := releasing_send hreleasing hx (goodReply (s.server.perform x).2)
    exact ⟨⟨rfl, hnext⟩, fun hwins => absurd hwins (not_wins_releasing _), .inr (.inr rfl)⟩

theorem tryLock_ne_done (c : Connection) (h : String) (outcome : LockOutcome) :
    (tryLock c h).run ≠ .done (.ok outcome) := by
  rw [tryLock_eq]
  exact (poses_lockHolders c).run_bind_ne _ _

/-- A call that ends leaves its client as sound as it was, and a winner where it was. -/
theorem sound_finish {x y : Contender} (hxy : x.finish? = some y) : y.Sound c h ∧ (y.Wins → x.Wins) := by
  unfold Contender.finish? at hxy
  split at hxy
  · next holds r =>
    obtain rfl := Option.some.inj hxy
    refine ⟨trivial, fun hwins => ?_⟩
    obtain hholds | htask := hwins
    · simp only [Bool.or_eq_true, beq_iff_eq] at hholds
      obtain hholds | hr := hholds
      · exact .inl hholds
      · cases r with
        | error f => simp [Except.toOption] at hr
        | ok outcome =>
          obtain rfl : outcome = .acquired := Option.some.inj hr
          exact .inr rfl
    · simp at htask
  · next holds r =>
    obtain rfl := Option.some.inj hxy
    refine ⟨trivial, fun hwins => ?_⟩
    obtain hholds | htask := hwins
    · exact .inl hholds
    · simp at htask
  · simp at hxy

/-- The server answers the query that a client has sent, as the query it is written as. -/
theorem step?_send {x : LockQuery} : step? c s (.send h x) = some t ↔
    ∃ holds task q, s.contenders h = ⟨holds, some task⟩ ∧ task.request? = some q ∧ x.sql? c = some q.sql ∧
      t = { s with server := (s.server.perform x).1 }.put h
        ⟨holds, some (task.hear (goodReply (s.server.perform x).2))⟩ := by
  rcases hc : s.contenders h with ⟨holds, _ | task⟩
  · simp [step?, hc]
  · cases hq : task.request? with
    | none => simp [step?, hc, hq]
    | some q =>
      by_cases hx : x.sql? c = some q.sql
      · simp [step?, hc, hq, hx, eq_comm]
      · simp [step?, hc, hq, hx]

/-- Every move that does not overtake keeps the invariant. -/
theorem inv_step {m : Move} (hi : Inv c s) (hno : ¬s.Overtakes m) (ht : step? c s m = some t) : Inv c t := by
  cases m with
  | wait n =>
    obtain rfl := Option.some.inj ht
    exact ⟨hi.sound, fun r hr => Nat.le_add_right_of_le (hi.past r hr), hi.leads⟩
  | ask h =>
    simp only [step?] at ht
    split at ht
    · obtain rfl := Option.some.inj ht
      refine hi.put (.start _) fun hwins => ?_
      obtain hholds | htask := hwins
      · exact hi.leads h (.inl hholds)
      · exact absurd (by simpa using htask) (tryLock_ne_done c h .acquired)
    · simp at ht
  | release h =>
    simp only [step?] at ht
    split at ht
    · obtain rfl := Option.some.inj ht
      exact hi.put ⟨rfl, .start⟩ fun hwins => absurd hwins (not_wins_releasing _)
    · simp at ht
  | send h x =>
    obtain ⟨holds, task, q, hc, hq, hx, rfl⟩ := step?_send.1 ht
    obtain ⟨hsound, hwins, hkinds⟩ := sound_hear hi hc hq hx
    exact hi.send hsound hwins hkinds hno
  | finish h =>
    obtain ⟨y, hy, rfl⟩ := Option.map_eq_some_iff.1 ht
    obtain ⟨hsound, hwins⟩ := sound_finish (c := c) (h := h) hy
    exact hi.put hsound fun hy => hi.leads h (hwins hy)

theorem inv_of_reachable (hs : Reachable c (fun s m => ¬s.Overtakes m) s) : Inv c s := by
  induction hs with
  | start hpast =>
    refine ⟨fun _ => trivial, hpast, fun h hwins => ?_⟩
    simp [LockSystem.start, Contender.Wins, Contender.idle] at hwins
  | step _ hno ht hi => exact inv_step hi hno ht

/-! ## Overtaking -/

/-- A client understands whom the server names as holders. -/
def LockServer.Legible (server : LockServer) : Prop :=
  hearHolders (goodReply (server.perform .read).2) = .ok server.holders

/-- A client that adds its row is about to look who came first. -/
theorem asking_add {holds : Bool} {q : Request} {next : Option Reply → Talk LockOutcome}
    (ha : Asking c h holds (.put q next)) (hx : LockQuery.sql? c (.add h) = some q.sql) :
    CanRead c ∧ next (goodReply []) = (settle c h).run := by
  obtain ⟨-, hquery, -⟩ | ⟨-, hread, -, hnext⟩ | ⟨-, hquery, -⟩ | ⟨-, hquery, -⟩ := asking_put ha
  · exact absurd (sql?_injective hx hquery) (by simp)
  · refine ⟨hread, ?_⟩
    rw [hnext, hearDone_good]
    rfl
  · exact absurd (sql?_injective hx hquery) (by simp)
  · exact absurd (sql?_injective hx hquery) (by simp)

/-- A client whose row leads gets the lock by looking who came first. -/
theorem steps?_settle {holds : Bool} (hread : CanRead c)
    (hc : s.contenders h = ⟨holds, some (.asking (settle c h).run)⟩) (hlegible : s.server.Legible)
    (hleads : ∃ t, s.server.Leads ⟨t, h⟩) :
    ∃ u, steps? c s [.send h .read, .finish h] = some u ∧ (u.contenders h).holds = true ∧
      ∀ k, k ≠ h → u.contenders k = s.contenders k := by
  obtain ⟨q, hquery, hrun⟩ := hread
  obtain ⟨t, hleads⟩ := hleads
  have hsettle : (settle c h).run = .put q fun reply => ExceptT.bindCont (judge c h) (hearHolders reply) := by
    rw [settle, run_bind, hrun]
    rfl
  have hjudge : ExceptT.bindCont (judge c h) (hearHolders (goodReply (s.server.perform .read).2)) =
      .done (.ok .acquired) := by
    rw [hlegible]
    change (judge c h s.server.holders).run = _
    rw [judge, hleads.head?_holders]
    simp only [beq_self_eq_true, if_true]
    rfl
  rw [hsettle] at hc
  have hsend : step? c s (.send h .read) = some (s.put h ⟨holds, some (.asking (.done (.ok .acquired)))⟩) := by
    refine step?_send.2 ⟨holds, _, q, hc, rfl, hquery, ?_⟩
    rw [Task.hear, hjudge]
    rfl
  refine ⟨(s.put h ⟨holds, some (.asking (.done (.ok .acquired)))⟩).put h ⟨true, none⟩, ?_, ?_, fun k hk => ?_⟩
  · rw [steps?, hsend, Option.bind_some, steps?, step?, LockSystem.contenders_put_self]
    simp [Contender.finish?, steps?, Except.toOption]
  · rw [LockSystem.contenders_put_self]
  · rw [LockSystem.contenders_put_of_ne _ _ hk, LockSystem.contenders_put_of_ne _ _ hk]

/-- A client that has won has the lock by the end of its call. -/
theorem steps?_wins (hwins : (s.contenders h).Wins) :
    ∃ ms u, steps? c s ms = some u ∧ (u.contenders h).holds = true ∧ ∀ k, k ≠ h → u.contenders k = s.contenders k := by
  obtain hholds | htask := hwins
  · exact ⟨[], s, rfl, hholds, fun _ _ => rfl⟩
  · refine ⟨[.finish h], s.put h ⟨true, none⟩, ?_, ?_, fun k hk => LockSystem.contenders_put_of_ne _ _ hk⟩
    · rcases hc : s.contenders h with ⟨holds, task⟩
      rw [hc] at htask
      obtain rfl : task = _ := htask
      simp [steps?, step?, hc, Contender.finish?, Except.toOption]
    · rw [LockSystem.contenders_put_self]

/-- A client that adds its row is in a call for the lock, about to look who came first. -/
theorem add_of_send {k : String} (hi : Inv c s) (ht : step? c s (.send k (.add k)) = some t) :
    CanRead c ∧ ∃ holds, t = { s with server := (s.server.perform (.add k)).1 }.put k
      ⟨holds, some (.asking (settle c k).run)⟩ := by
  obtain ⟨holds, task, q, hc, hq, hx, rfl⟩ := step?_send.1 ht
  have hsound := hi.sound k
  rw [hc] at hsound
  rcases task with ⟨_ | ⟨p, next⟩⟩ | ⟨_ | ⟨p, next⟩⟩
  · simp [Task.request?] at hq
  · obtain rfl : p = q := Option.some.inj hq
    obtain ⟨hread, hnext⟩ := asking_add hsound hx
    refine ⟨hread, holds, ?_⟩
    rw [LockServer.perform_add_reply, Task.hear, hnext]
  · simp [Task.request?] at hq
  · obtain rfl : p = q := Option.some.inj hq
    have hremove := (releasing_send hsound.2 hx none).2
    simp at hremove

/-- Once a row overtakes that of a client that has won, both clients can have the lock. -/
theorem both_hold_of_overtakes {m : Move} (hi : Inv c s) (hm : s.Overtakes m) (ht : step? c s m = some t)
    (hlegible : t.server.Legible) : ∃ ms u h k, steps? c t ms = some u ∧ h ≠ k ∧
      (u.contenders h).holds = true ∧ (u.contenders k).holds = true := by
  obtain ⟨h, k, rfl, hwins, hleads, hlt⟩ := hm
  obtain ⟨hread, holds, rfl⟩ := add_of_send hi ht
  have hhk : h ≠ k := fun heq => absurd hlt (heq ▸ String.lt_irrefl k)
  -- The one that came later looks first and sees its own row in front, the other has seen its own before.
  obtain ⟨v, hv, hk, hrest⟩ := steps?_settle hread (LockSystem.contenders_put_self _ k _) hlegible ⟨_, hleads.overtaken hlt⟩
  have hstill : (v.contenders h).Wins := by
    rw [hrest h hhk, LockSystem.contenders_put_of_ne _ _ hhk]
    exact hwins
  obtain ⟨ms, u, hu, hh, hothers⟩ := steps?_wins (c := c) hstill
  refine ⟨[.send k .read, .finish k] ++ ms, u, h, k, ?_, hhk, hh, ?_⟩
  · rw [steps?_append, hv]
    exact hu
  · rw [hothers k hhk.symm]
    exact hk

/-! ## A race -/

theorem not_overtakes_of_ne_add {m : Move} (hm : ∀ k, m ≠ .send k (.add k)) : ¬s.Overtakes m :=
  fun ⟨_, k, hk, _⟩ => hm k hk

theorem not_overtakes_of_rows {m : Move} (hrows : s.server.rows = []) : ¬s.Overtakes m := by
  rintro ⟨h, k, -, -, hleads, -⟩
  simp [LockServer.Leads, hrows] at hleads

def lone : Connection := ⟨"localhost", "u", "p", "app", none⟩

/-- Nobody has ever asked for the lock, and the clock does not move. -/
def untouched : LockSystem := .start ⟨[], 0⟩

/-- Two clients see that nobody has the lock. -/
def bothLook : List Move := [.ask "a", .send "a" .read, .ask "b", .send "b" .read]

def lookAgain (h : String) : List Move := [.send h .read, .finish h]

/-- One of them has added its row and got the lock. The other is about to add its own, under a name that comes
before. -/
theorem reachable_race : ∃ s t, Reachable lone (fun s m => ¬s.Overtakes m) s ∧ s.Overtakes (.send "a" (.add "a")) ∧
    step? lone s (.send "a" (.add "a")) = some t ∧ t.server.Legible := by
  have hlook : (steps? lone untouched bothLook).map (·.server.rows) = some [] := by decide +kernel
  have hrace : (steps? lone untouched (bothLook ++ .send "b" (.add "b") :: lookAgain "b")).map
      (fun s => (s.server, (s.contenders "b").holds)) = some (⟨[⟨0, "b"⟩], 0⟩, true) := by decide +kernel
  have hlate : (steps? lone untouched (bothLook ++ .send "b" (.add "b") :: lookAgain "b" ++ [.send "a" (.add "a")])).map
      (·.server) = some ⟨[⟨0, "b"⟩, ⟨0, "a"⟩], 0⟩ := by decide +kernel
  obtain ⟨v, hv, hrows⟩ := Option.map_eq_some_iff.1 hlook
  obtain ⟨s, hs, hserver⟩ := Option.map_eq_some_iff.1 hrace
  obtain ⟨hserver, hholds⟩ := Prod.mk.inj hserver
  obtain ⟨t, ht, hrowsOfBoth⟩ := Option.map_eq_some_iff.1 hlate
  rw [steps?_append, hs, Option.bind_some, steps?, Option.bind_eq_some_iff] at ht
  obtain ⟨u, hu, ht⟩ := ht
  obtain rfl : u = t := Option.some.inj ht
  rw [steps?_append, hv, Option.bind_some, steps?, Option.bind_eq_some_iff] at hs
  obtain ⟨w, hw, hs⟩ := hs
  have hstart : Reachable lone (fun s m => ¬s.Overtakes m) untouched := .start (by simp)
  have hreach : Reachable lone (fun s m => ¬s.Overtakes m) v :=
    hstart.steps (fun m hm r => not_overtakes_of_ne_add fun k hk => by simp [bothLook, hk] at hm) hv
  have hreach : Reachable lone (fun s m => ¬s.Overtakes m) s :=
    (hreach.step (not_overtakes_of_rows hrows) hw).steps
      (fun m hm r => not_overtakes_of_ne_add fun k hk => by simp [lookAgain, hk] at hm) hs
  refine ⟨s, u, hreach, ⟨"b", "a", rfl, .inl hholds, ?_, by decide⟩, hu, ?_⟩
  · simp [hserver, LockServer.Leads, LockRow.le_refl]
  · rw [hrowsOfBoth, LockServer.Legible]
    decide +kernel

/-! ## Who has the lock -/

/-- As long as no row overtakes that of a client that has won, no two clients have the lock. As soon as one does, two
clients can have it. -/
theorem exclusive_or_overtaken (c : Connection) {s : LockSystem} (hs : Reachable c (fun s m => ¬s.Overtakes m) s) :
    (∀ h k, (s.contenders h).holds = true → (s.contenders k).holds = true → h = k) ∧
      ∀ m t, s.Overtakes m → step? c s m = some t → t.server.Legible →
        ∃ ms u h k, steps? c t ms = some u ∧ h ≠ k ∧ (u.contenders h).holds = true ∧ (u.contenders k).holds = true := by
  have hi := inv_of_reachable hs
  refine ⟨fun h k hh hk => hi.unique (.inl hh) (.inl hk), fun m t hm ht hlegible => ?_⟩
  exact both_hold_of_overtakes hi hm ht hlegible

theorem exclusive_or_overtaken_race : ∃ s m t, Reachable lone (fun s m => ¬s.Overtakes m) s ∧ s.Overtakes m ∧
    step? lone s m = some t ∧ t.server.Legible ∧
      (∀ h k, (s.contenders h).holds = true → (s.contenders k).holds = true → h = k) ∧
      ∃ ms u h k, steps? lone t ms = some u ∧ h ≠ k ∧ (u.contenders h).holds = true ∧
        (u.contenders k).holds = true := by
  obtain ⟨s, t, hs, hm, ht, hlegible⟩ := reachable_race
  obtain ⟨hone, htwo⟩ := exclusive_or_overtaken lone hs
  exact ⟨s, _, t, hs, hm, ht, hlegible, hone, htwo _ t hm ht hlegible⟩

/-- In the race both clients are told that they have the lock, and neither has given it back. -/
theorem not_exclusive_race : ¬∀ s, Reachable lone (fun _ _ => True) s →
    ∀ h k, (s.contenders h).holds = true → (s.contenders k).holds = true → h = k := by
  intro hexclusive
  have hrace : (steps? lone untouched (bothLook ++ .send "b" (.add "b") :: lookAgain "b" ++
      .send "a" (.add "a") :: lookAgain "a")).map
      (fun s => ((s.contenders "a").holds, (s.contenders "b").holds)) = some (true, true) := by decide +kernel
  obtain ⟨s, hs, hholds⟩ := Option.map_eq_some_iff.1 hrace
  obtain ⟨ha, hb⟩ := Prod.mk.inj hholds
  have hstart : Reachable lone (fun _ _ => True) untouched := .start (by simp)
  exact absurd (hexclusive s (hstart.steps (fun _ _ _ => trivial) hs) "a" "b" ha hb) (by decide)

end SchemaMigration.Clickhouse
