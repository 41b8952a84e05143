import SchemaMigration.Proofs.Clickhouse.Inquiries
import SchemaMigration.Proofs.Clickhouse.Opening

/-!
# Runs that are cut off

`Sends`         : a turn sends a query of the lock.
`CutOff`        : the last that a run hears is a reply that names no holder.
`exists_cutOff` : with a proper connection each such reply cuts a run off after it has added its row.
-/

namespace SchemaMigration.Clickhouse

set_option autoImplicit false

open Dialogue (Converses converses_exceptT_bind)
open Http (Request Reply)
open Run (Course Talks)

/-! ## Turns -/

section

variable {c : Connection} {x y : LockQuery} {s : ServerTurn}

/-- The turn sends the query. -/
def Sends (c : Connection) (x : LockQuery) (s : ServerTurn) : Prop := x.sql? c = some s.question.sql

theorem Sends.unique (hx : Sends c x s) (hy : Sends c y s) : x = y := sql?_injective hx hy

/-- The reply names no holder: there is none, or it cannot be read. -/
def NamesNobody (reply : Option Reply) : Prop := ∀ names, hearHolders reply = .ok names → names = []

/-- The server has done what it was asked for. -/
def Accepted (reply : Option Reply) : Prop := hearDone "failed to acquire lock: " reply = .ok ()

/-- The last that a run hears is a reply that names no holder. -/
def CutOff (c : Connection) (t : List ServerTurn) : Prop := ∃ r, t = [r] ∧ Sends c .read r ∧ NamesNobody r.answer

end

/-! ## Replies -/

theorem hearHolders_nil : hearHolders (goodReply []) = .ok [] := by
  have hhear : hearHolders (goodReply []) =
      (texts (.ofBytes [])).mapError (inDatabase "failed to read lock holder: ") := rfl
  rw [hhear, ofBytes_nil]
  rfl

theorem accepted_good : Accepted (goodReply []) := hearDone_good "failed to acquire lock: "

/-- The body of the reply of a server that has the database. -/
theorem readReply_one : readReply (goodReply (wordBytes 1)) = .ok ⟨wordBytes 1, none⟩ := by
  have hbody : Body.ofBytes (wordBytes 1) = ⟨wordBytes 1, none⟩ := by decide +kernel
  have hread : readReply (goodReply (wordBytes 1)) = .ok (.ofBytes (wordBytes 1)) := rfl
  rw [hread, hbody]

theorem readBody_one : Client.readBody word ⟨wordBytes 1, none⟩ = ([1], none) := by
  decide +kernel

/-- The server has one of what was counted. -/
theorem firstRow_one :
    ((readReply (goodReply (wordBytes 1)) >>= fun body => .ok (Client.readBody word body)) >>= firstRow) = .ok 1 := by
  rw [readReply_one]
  change firstRow (Client.readBody word ⟨wordBytes 1, none⟩) = .ok 1
  rw [readBody_one]
  rfl

/-- A server that is too busy names nobody. -/
theorem namesNobody_busy : NamesNobody (some ⟨503, []⟩) := by
  obtain ⟨e, he⟩ : ∃ e, readReply (some ⟨503, []⟩) = .error e := by
    unfold readReply
    split
    · exact ⟨_, rfl⟩
    · next r hr =>
      obtain rfl := Option.some.inj hr
      rw [if_neg (by decide)]
      split <;> exact ⟨_, rfl⟩
  have hheard : hearHolders (some ⟨503, []⟩) = .error (inDatabase "failed to read lock holder: " e) := by
    rw [hearHolders, he]
    rfl
  intro names hnames
  simp [hheard] at hnames

/-! ## Exchanges -/

section

variable {client : Client} {template sql : String} {values : List String}

theorem speaks_execute (h : client.Sends) (hfill : fill template values = some sql) :
    Speaks (client.execute template values) := by
  obtain ⟨q, hq⟩ := h.request false sql
  exact (speaks_send (hfill ▸ hq)).bind _

theorem speaks_fetch {α : Type} (row : Field α) (h : client.Sends)
    (hfill : fill (template ++ " FORMAT RowBinary") values = some sql) : Speaks (client.fetch row template values) := by
  obtain ⟨q, hq⟩ := h.request true sql
  exact (speaks_send (hfill ▸ hq)).bind _

end

/-! ## The places of the queries -/

theorem places_databaseCount : places (Query.databaseCount ++ " FORMAT RowBinary") = 1 := rfl

theorem places_tableCount : places (Query.tableCount ++ " FORMAT RowBinary") = 2 := rfl

/-! ## What a proper connection can ask -/

/-- The names of a connection can be written in queries, and its queries can be sent. -/
structure Proper (c : Connection) : Prop where
  names : HasNames c
  sends : (serverClient c).Sends

section

variable {c : Connection} (h : Proper c)

include h

theorem Proper.databaseClient_sends : (databaseClient c).Sends := h.sends

/-- A query without rows can be sent once it has a value for each of its places. -/
theorem Proper.speaks_execute {template : String} {values : List String} (hplaces : places template = values.length)
    (words : String) : Speaks (explain (inDatabase words) ((databaseClient c).execute template values)) := by
  obtain ⟨sql, hsql⟩ := fill_eq_some values (Nat.le_of_eq hplaces)
  exact (Clickhouse.speaks_execute h.databaseClient_sends hsql).explain _

theorem Proper.databaseExists :
    ∃ q, Converses (databaseExists c).run [⟨q, goodReply (wordBytes 1)⟩] (.ok true) := by
  obtain ⟨sql, hsql⟩ := fill_eq_some [textLiteral c.database] (Nat.le_of_eq places_databaseCount)
  have hspeaks : Speaks ((serverClient c).fetchOne word Query.databaseCount [textLiteral c.database]) :=
    (speaks_fetch word h.sends hsql).bind _
  have hposes := (poses_fetchOne (serverClient c) word Query.databaseCount [textLiteral c.database]).explain fun e =>
    .connection ("failed to reach ClickHouse at " ++ c.serverAddress ++ ": " ++ e.message)
  obtain ⟨q, -, hq⟩ := hposes.converses_of_speaks (hspeaks.explain _) (goodReply (wordBytes 1))
  rw [firstRow_one] at hq
  exact ⟨q, converses_exceptT_bind.2 (.inr ⟨[], (), _, rfl,
    converses_ofExcept.2 ⟨rfl, (checkName_eq_ok.2 h.names.database).symm⟩,
    converses_exceptT_bind.2 (.inr ⟨_, 1, [], rfl, hq, .done _⟩)⟩)⟩

theorem Proper.connect : ∃ q, Converses (connect c).run [⟨q, goodReply (wordBytes 1)⟩] (.ok ()) := by
  obtain ⟨q, hq⟩ := h.databaseExists
  refine ⟨q, ?_⟩
  rw [connect_eq]
  refine converses_exceptT_bind.2 (.inr ⟨_, true, [], rfl, hq, ?_⟩)
  refine converses_exceptT_bind.2 (.inr ⟨[], (), [], rfl, .done _, ?_⟩)
  cases hcluster : c.cluster with
  | none => exact .done _
  | some cluster =>
    exact converses_ofExcept.2 ⟨rfl, (checkName_eq_ok.2 (h.names.cluster cluster hcluster)).symm⟩

theorem Proper.ensureTables :
    ∃ q r, Converses (ensureTables c).run [⟨q, goodReply []⟩, ⟨r, goodReply []⟩] (.ok ()) := by
  have hmake {template : String} (hplaces : places (doubleMarks template) = 0) :
      ∃ q, Converses (explain (inDatabase "failed to create bookkeeping tables: ") ((databaseClient c).execute
        (doubleMarks template) [])).run [⟨q, goodReply []⟩] (.ok ()) := by
    have hposes := (poses_execute (databaseClient c) (doubleMarks template) []).explain
      (inDatabase "failed to create bookkeeping tables: ")
    obtain ⟨q, -, hq⟩ := hposes.converses_of_speaks (h.speaks_execute hplaces _) (goodReply [])
    have hdone := hearDone_good "failed to create bookkeeping tables: "
    rw [hearDone] at hdone
    rw [hdone] at hq
    exact ⟨q, hq⟩
  obtain ⟨q, hq⟩ := hmake (h.names.places_extended .createRecordTable)
  obtain ⟨r, hr⟩ := hmake (h.names.places_extended .createLockTable)
  exact ⟨q, r, converses_exceptT_bind.2 (.inr ⟨[_], (), [_], rfl, hq,
    converses_exceptT_bind.2 (.inr ⟨_, (), [], rfl, hr, .done _⟩)⟩)⟩

theorem Proper.canRead : CanRead c := by
  obtain ⟨sql, hsql⟩ := fill_eq_some [] (Nat.le_of_eq (h.names.places_extended .holders))
  have hspeaks : Speaks (lockHolders c) := ((speaks_fetch text h.databaseClient_sends hsql).bind _).explain _
  exact (poses_lockHolders c).resolve_left fun hsilent => Silent.not_speaks hsilent hspeaks

theorem Proper.addHolder (holder : String) :
    ∃ a, Sends c (.add holder) ⟨a, goodReply []⟩ ∧ Converses (explain (inDatabase "failed to acquire lock: ")
      ((databaseClient c).execute (Query.addHolder c) [textLiteral holder])).run [⟨a, goodReply []⟩] (.ok ()) := by
  obtain ⟨a, ha, hadd⟩ :=
    (poses_addHolder c holder).converses_of_speaks (h.speaks_execute (h.names.places_extended (.addHolder holder)) _) (goodReply [])
  rw [hearDone_good] at hadd
  exact ⟨a, ha, hadd⟩

/-- Nobody holds the lock, the row is added, and then the reply names nobody. -/
theorem Proper.tryLock (holder : String) {reply : Option Reply} (hreply : NamesNobody reply) :
    ∃ r a f, Sends c .read ⟨r, reply⟩ ∧ Sends c (.add holder) ⟨a, goodReply []⟩ ∧
      Converses (tryLock c holder).run [⟨r, goodReply []⟩, ⟨a, goodReply []⟩, ⟨r, reply⟩] (.error f) := by
  obtain ⟨r, hr, hput⟩ := h.canRead
  obtain ⟨a, ha, hadd⟩ := h.addHolder holder
  have hread (reply : Option Reply) : Converses (lockHolders c).run [⟨r, reply⟩] (hearHolders reply) := by
    rw [hput]
    exact .put (.done _)
  have hsettle : ∃ f, Converses (settle c holder).run [⟨r, reply⟩] (.error f) := by
    have hheard := hread reply
    cases hnames : hearHolders reply with
    | error f =>
      rw [hnames] at hheard
      exact ⟨f, converses_exceptT_bind.2 (.inl ⟨f, hheard, rfl⟩)⟩
    | ok names =>
      obtain rfl := hreply names hnames
      rw [hnames] at hheard
      exact ⟨_, converses_exceptT_bind.2 (.inr ⟨_, [], [], rfl, hheard, .done _⟩)⟩
  obtain ⟨f, hf⟩ := hsettle
  have hfree := hread (goodReply [])
  rw [hearHolders_nil] at hfree
  exact ⟨r, a, f, hr, ha, converses_exceptT_bind.2 (.inr ⟨[_], [], _, rfl, hfree,
    converses_exceptT_bind.2 (.inr ⟨[_], (), _, rfl, hadd, hf⟩)⟩)⟩

/-! ## A run that is cut off -/

/-- An engine that opens the database and fails at all else. -/
def openingEngine (f : Fault) : Run.Engine Unit := fun call _ =>
  match call with
  | .databaseExists => (.ok true, ())
  | .connect => (.ok (), ())
  | .ensureBookkeeping => (.ok (), ())
  | _ => (.error f, ())

omit h in
theorem course_openingEngine (o : RunOptions) (folder : Folder) (f : Fault) :
    Course (Run.migrate o folder).run [⟨.databaseExists, .ok true⟩, ⟨.connect, .ok ()⟩, ⟨.ensureBookkeeping, .ok ()⟩,
      ⟨.tryLock o.holder, .error f⟩] (.error f) :=
  Run.course_transcript (Run.migrate o folder) (openingEngine f) ()

/-- Each reply that names no holder cuts a run off that has added its row. -/
theorem Proper.exists_cutOff (o : RunOptions) (folder : Folder) (now : Time.Instant) {reply : Option Reply}
    (hreply : NamesNobody reply) : ∃ t y r conclusion,
      Converses ((Run.migrate o folder).via (engine c now)) (t ++ y :: [⟨r, reply⟩]) conclusion ∧
        Sends c (.add o.holder) y ∧ Accepted y.answer ∧ Sends c .read ⟨r, reply⟩ := by
  obtain ⟨there, hexists⟩ := h.databaseExists
  obtain ⟨connect, hconnect⟩ := h.connect
  obtain ⟨records, lock, htables⟩ := h.ensureTables
  obtain ⟨r, a, f, hr, ha, hlock⟩ := h.tryLock o.holder hreply
  have htalks : Talks (engine c now) [⟨.databaseExists, .ok true⟩, ⟨.connect, .ok ()⟩, ⟨.ensureBookkeeping, .ok ()⟩,
      ⟨.tryLock o.holder, .error f⟩] _ :=
    .cons hexists (.cons hconnect (.cons htables (.cons hlock .nil)))
  obtain ⟨conclusion, hconclusion, -⟩ := Run.converses_via.2 ⟨_, course_openingEngine o folder f, htalks⟩
  exact ⟨[⟨there, goodReply (wordBytes 1)⟩, ⟨connect, goodReply (wordBytes 1)⟩, ⟨records, goodReply []⟩,
    ⟨lock, goodReply []⟩, ⟨r, goodReply []⟩], ⟨a, goodReply []⟩, r, conclusion, hconclusion, ha, accepted_good, hr⟩

end

end SchemaMigration.Clickhouse
