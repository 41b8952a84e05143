import SchemaMigration.Proofs.Clickhouse.CutOff

/-!
# What becomes of a run's row

`Settles`         : how asking for the lock goes on after the row was added.
`removed_iff`     : a run that has added its row takes it back, unless the next reply cuts it off.
`not_removed_cut` : a run that was cut off.

The opening of a run only selects and creates, so the row is added later. Either the run is still asking for the lock, and
then at most two requests are left (`Settles`); or it has the lock, and its last request takes the row back.
-/

namespace SchemaMigration.Clickhouse

set_option autoImplicit false

open Dialogue (Converses converses_done converses_exceptT_bind)
open Run (Migrates Talks talks_append talks_cons talks_nil)

/-- Requests that select or create add no rows. -/
theorem BeginWith.not_sends_add {c : Connection} {t : List ServerTurn} (h : BeginWith ['S', 'C'] t) (holder : String) :
    ∀ s ∈ t, ¬Sends c (.add holder) s := by
  intro s hs hadd
  obtain ⟨d, hd, hhead⟩ := h s hs
  obtain rfl : d = 'I' := Option.some.inj (hhead.symm.trans (head?_sql? hadd))
  simp at hd

/-- One of two lists has the element. -/
theorem mem_of_append_cons_eq {α : Type} {t u v w : List α} {y : α} (h : t ++ y :: u = v ++ w) :
    (∃ u', v = t ++ y :: u' ∧ u = u' ++ w) ∨ ∃ t', t = v ++ t' ∧ w = t' ++ y :: u := by
  obtain ⟨t', rfl, hw⟩ | ⟨u', rfl, hu⟩ := List.append_eq_append_iff.1 h.symm
  · exact .inr ⟨t', rfl, hw⟩
  · cases u' with
    | nil => exact .inr ⟨[], by simp, hu.symm⟩
    | cons z u' =>
      obtain ⟨rfl, rfl⟩ := List.cons.inj hu
      exact .inl ⟨u', rfl, rfl⟩

/-! ## Asking for the lock -/

section

variable {c : Connection} {holder : String} {t u : List ServerTurn} {y : ServerTurn} {a : Except Fault LockOutcome}

/-- How asking for the lock goes on after the row was added. -/
inductive Settles (c : Connection) (holder : String) : List ServerTurn → Except Fault LockOutcome → Prop
  | acquired {r : ServerTurn} (hr : Sends c .read r) : Settles c holder [r] (.ok .acquired)
  | withdrawn {r d : ServerTurn} {a : Except Fault LockOutcome} (hr : Sends c .read r)
      (hd : Sends c (.remove holder) d) : Settles c holder [r, d] a
  | lost {r : ServerTurn} (hr : Sends c .read r) (hnobody : NamesNobody r.answer) (f : Fault) :
      Settles c holder [r] (.error f)

/-- No row is added twice. -/
theorem Settles.not_sends_add (h : Settles c holder t a) : ∀ s ∈ t, ¬Sends c (.add holder) s := by
  intro s hs hadd
  cases h with
  | acquired hr | lost hr =>
    obtain rfl := List.mem_singleton.1 hs
    exact LockQuery.noConfusion (hadd.unique hr)
  | withdrawn hr hd =>
    simp only [List.mem_cons, List.not_mem_nil, or_false] at hs
    obtain rfl | rfl := hs
    · exact LockQuery.noConfusion (hadd.unique hr)
    · exact LockQuery.noConfusion (hadd.unique hd)

/-- Taking a row back is asked for, if it can be. -/
theorem converses_removeHolder (hremove : Speaks (removeHolder c holder)) {a : Except Fault Unit}
    (h : Converses (removeHolder c holder).run t a) : ∃ d, t = [d] ∧ Sends c (.remove holder) d := by
  obtain ⟨hsilent, -⟩ | ⟨q, reply, hq, rfl, -⟩ := (poses_removeHolder c holder).converses h
  · exact absurd hremove hsilent.not_speaks
  · exact ⟨_, rfl, hq⟩

theorem converses_settle (hread : CanRead c) (hremove : Speaks (removeHolder c holder))
    (h : Converses (settle c holder).run t a) : Settles c holder t a := by
  obtain ⟨q, hq, hput⟩ := hread
  obtain ⟨reply, v, rfl, hheard⟩ := converses_bind_of_put hput h
  have hr : Sends c .read ⟨q, reply⟩ := hq
  obtain ⟨f, hheard, rfl, rfl⟩ | ⟨names, hheard, hjudge⟩ := hheard
  · exact .lost hr (fun names hnames => by simp [hheard] at hnames) f
  cases names with
  | nil =>
    obtain ⟨rfl, rfl⟩ := converses_done.1 hjudge
    exact .lost hr (fun names hnames => by simpa [hheard, eq_comm] using hnames) _
  | cons first others =>
    change Converses (if first == holder then pure .acquired else withdraw c holder first : Exchange Fault _).run _ _
      at hjudge
    cases hfirst : first == holder with
    | true =>
      rw [hfirst, if_pos rfl] at hjudge
      obtain ⟨rfl, rfl⟩ := converses_done.1 hjudge
      exact .acquired hr
    | false =>
      rw [hfirst, if_neg Bool.false_ne_true] at hjudge
      obtain ⟨e, he, -⟩ | ⟨u, _, v, rfl, hu, hdone⟩ := converses_exceptT_bind.1 hjudge
      · obtain ⟨d, rfl, hd⟩ := converses_removeHolder hremove he
        exact .withdrawn hr hd
      · obtain ⟨d, rfl, hd⟩ := converses_removeHolder hremove hu
        obtain ⟨rfl, rfl⟩ := converses_done.1 hdone
        exact .withdrawn hr hd

/-- Whoever asks for the lock fails at once, or can ask for the holders. -/
theorem canRead_of_tryLock (h : Converses (tryLock c holder).run t a) :
    CanRead c ∨ t = [] ∧ ∃ f, a = .error f := by
  obtain ⟨e, he⟩ | hread := poses_lockHolders c
  · rw [tryLock_eq, run_bind, he] at h
    obtain ⟨rfl, rfl⟩ := converses_done.1 h
    exact .inr ⟨rfl, e, rfl⟩
  · exact .inl hread

theorem settles_of_enter (hread : CanRead c) (hremove : Speaks (removeHolder c holder))
    (h : Converses (enter c holder).run (t ++ y :: u) a) (hadd : Sends c (.add holder) y)
    (haccepted : Accepted y.answer) : Settles c holder u a := by
  obtain ⟨e, he⟩ | ⟨q, hq, hput⟩ := poses_addHolder c holder
  · rw [enter, run_bind, he] at h
    exact absurd (converses_done.1 h).1 (by simp)
  obtain ⟨reply, v, ht, hrest⟩ := converses_bind_of_put hput h
  obtain ⟨rfl, hy⟩ | ⟨t', rfl, hv⟩ := List.append_eq_cons_iff.1 ht
  · obtain ⟨rfl, rfl⟩ := List.cons.inj hy
    obtain ⟨f, hheard, -⟩ | ⟨_, -, hsettle⟩ := hrest
    · exact absurd (haccepted.symm.trans hheard) (by simp)
    · exact converses_settle hread hremove hsettle
  · -- the row was added before, and that does not happen twice
    obtain ⟨f, -, rfl, -⟩ | ⟨_, -, hsettle⟩ := hrest
    · simp at hv
    · have hsettles := converses_settle hread hremove hsettle
      exact absurd hadd (hsettles.not_sends_add y (by simp [hv]))

/-- What comes after the row was added is settling who came first. -/
theorem settles_of_tryLock (hnames : HasNames c)
    (h : Converses (tryLock c holder).run (t ++ y :: u) a) (hadd : Sends c (.add holder) y)
    (haccepted : Accepted y.answer) : Settles c holder u a := by
  have hread : CanRead c := (canRead_of_tryLock h).resolve_right fun hnone => by simp at hnone
  obtain ⟨q, hq, hput⟩ := id hread
  obtain ⟨reply, v, ht, hrest⟩ := converses_bind_of_put hput h
  obtain ⟨rfl, hy⟩ | ⟨t', rfl, hv⟩ := List.append_eq_cons_iff.1 ht
  · obtain ⟨rfl, rfl⟩ := List.cons.inj hy
    exact LockQuery.noConfusion (hadd.unique hq)
  obtain ⟨f, -, rfl, -⟩ | ⟨names, -, hconsider⟩ := hrest
  · simp at hv
  cases names with
  | nil =>
    rw [hv] at hconsider
    exact settles_of_enter hread (speaks_removeHolder hnames hread holder) hconsider hadd haccepted
  | cons first others =>
    obtain ⟨rfl, -⟩ := converses_done.1 hconsider
    simp at hv

end

/-! ## A whole run -/

section

variable {c : Connection} {now : Time.Instant} {o : RunOptions} {folder : Folder} {t u : List ServerTurn}
  {y : ServerTurn}

/-- A run that has added its row takes it back, or it could not see who holds the lock. -/
theorem removed_or_cutOff {xs : List Answered} {e : Except Fault Report} (h : Migrates o folder xs e)
    (htalks : Talks (engine c now) xs (t ++ y :: u)) (hadd : Sends c (.add o.holder) y)
    (haccepted : Accepted y.answer) : (∃ d ∈ u, Sends c (.remove o.holder) d) ∨ CutOff c u := by
  have hnotOpening {xs : List Answered} {v : List ServerTurn} (hxs : ∀ x ∈ xs, x.call.isOpening = true)
      (hv : Talks (engine c now) xs v) : y ∉ v := fun hy => (beginWith_talks hxs hv).not_sends_add o.holder y hy hadd
  obtain hopening | ⟨before, a, rest, rfl, hbefore, hconnected, hrest⟩ := h.asks
  · exact absurd (by simp) (hnotOpening hopening htalks)
  -- the row is added after the opening: while the lock is asked for, or later by a run that has it
  obtain ⟨opening, work, hsplit, hopening, hwork⟩ := talks_append.1 htalks
  obtain ⟨v, rfl, -⟩ | ⟨t, rfl, rfl⟩ := mem_of_append_cons_eq hsplit
  · exact absurd (by simp) (hnotOpening hbefore hopening)
  obtain ⟨asking, after, hsplit, hasking, hafter⟩ := talks_cons.1 hwork
  have hnames : HasNames c := hasNames_of_connect hconnected hopening
  obtain ⟨rfl, hunacquired⟩ | ⟨rfl, work, released, rfl⟩ := hrest
  · obtain rfl := talks_nil.1 hafter
    rw [List.append_nil] at hsplit
    subst hsplit
    have hsettles : Settles c o.holder u a := settles_of_tryLock hnames hasking hadd haccepted
    cases hsettles with
    | acquired => exact absurd rfl hunacquired
    | withdrawn _ hd => exact .inl ⟨_, by simp, hd⟩
    | lost hr hnobody f => exact .inr ⟨_, rfl, hr, hnobody⟩
  · -- the release is the last request of the run
    have hread : CanRead c := (canRead_of_tryLock hasking).resolve_right fun hnone => by simp at hnone
    obtain ⟨worked, unlocking, rfl, -, hunlock⟩ := talks_append.1 hafter
    obtain ⟨unlocking, _, rfl, hunlocking, hnone⟩ := talks_cons.1 hunlock
    obtain rfl := talks_nil.1 hnone
    obtain ⟨d, rfl, hd⟩ := converses_removeHolder (speaks_removeHolder hnames hread o.holder) hunlocking
    rw [List.append_nil, ← List.append_assoc] at hsplit
    obtain ⟨v, -, rfl⟩ | ⟨v, -, hlast⟩ := mem_of_append_cons_eq hsplit
    · exact .inl ⟨d, by simp, hd⟩
    · have hy : y ∈ [d] := by simp [hlast]
      obtain rfl := List.mem_singleton.1 hy
      exact LockQuery.noConfusion (hadd.unique hd)

/-- A run takes its row back, unless it cannot see who holds the lock right after it added the row. -/
theorem removed_iff {conclusion : Run.Conclusion Report}
    (h : Converses ((Run.migrate o folder).via (engine c now)) (t ++ y :: u) conclusion)
    (hadd : Sends c (.add o.holder) y) (haccepted : Accepted y.answer) :
    (∃ d ∈ u, Sends c (.remove o.holder) d) ↔ ¬CutOff c u := by
  constructor
  · rintro ⟨d, hd, hremove⟩ ⟨r, rfl, hr, -⟩
    obtain rfl := List.mem_singleton.1 hd
    exact LockQuery.noConfusion (hremove.unique hr)
  · intro hnot
    obtain ⟨xs, hcourse, htalks⟩ := Run.converses_via.1 ⟨conclusion, h, rfl⟩
    exact (removed_or_cutOff (Run.course_migrate hcourse) htalks hadd haccepted).resolve_right hnot

end

/-! ## A run that is cut off -/

def localServer : Connection := ⟨"localhost", "ann", "pw", "app", none⟩

theorem proper_localServer : Proper localServer where
  names := ⟨by decide, by simp [localServer]⟩
  sends := ⟨⟨_, rfl⟩, by decide⟩

/-- A run that has added its row does not always take it back. -/
theorem not_removed_cut : ¬∀ (o : RunOptions) (folder : Folder) (c : Connection) (now : Time.Instant)
    (conclusion : Run.Conclusion Report) (t u : List ServerTurn) (y : ServerTurn),
    Converses ((Run.migrate o folder).via (engine c now)) (t ++ y :: u) conclusion → Sends c (.add o.holder) y →
      Accepted y.answer → ∃ d ∈ u, Sends c (.remove o.holder) d := by
  intro hremoved
  obtain ⟨t, y, r, conclusion, h, hadd, haccepted, hread⟩ :=
    proper_localServer.exists_cutOff firstRun oneFile Rehearsal.epoch namesNobody_busy
  obtain ⟨d, hd, hremove⟩ :=
    hremoved firstRun oneFile localServer Rehearsal.epoch conclusion t [⟨r, some ⟨503, []⟩⟩] y h hadd haccepted
  obtain rfl := List.mem_singleton.1 hd
  exact LockQuery.noConfusion (hremove.unique hread)

theorem removed_iff_cut : ∃ t y u conclusion,
    Converses ((Run.migrate firstRun oneFile).via (engine localServer Rehearsal.epoch)) (t ++ y :: u) conclusion ∧
      Sends localServer (.add firstRun.holder) y ∧ Accepted y.answer ∧
      ((∃ d ∈ u, Sends localServer (.remove firstRun.holder) d) ↔ ¬CutOff localServer u) := by
  obtain ⟨t, y, r, conclusion, h, hadd, haccepted, -⟩ :=
    proper_localServer.exists_cutOff firstRun oneFile Rehearsal.epoch namesNobody_busy
  exact ⟨t, y, _, conclusion, h, hadd, haccepted, removed_iff h hadd haccepted⟩

end SchemaMigration.Clickhouse
