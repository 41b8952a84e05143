import SchemaMigration.Proofs.Clickhouse.LockRow
import SchemaMigration.Proofs.Clickhouse.Templates

/-!
# Migrations as they are sent

`applyWith`     : a migration, whatever makes queries of its templates.
`Verbatim`      : the turns of a migration whose statements are sent as they are, one after another, and then its record.
`SendsVerbatim` : these are the turns of the migration, whatever the server answers.
`StopsAt`       : the turns of a migration that comes to a statement of a kind that it cannot send.
`Opened`        : a session on the database has been opened.
`apply_verbatim_iff` : a migration sends its statements as they are if they have no marks, and not otherwise.

The statements are handed to the client with every mark doubled, for a client to which two marks are one. To the client
that is used each of the two is a place, and places without values are not sent.
-/

namespace SchemaMigration.Clickhouse

set_option autoImplicit false

open Dialogue (Converses converses_done converses_exceptT_bind)
open Http (Request Reply)
open Time (Instant)

/-! ## Vocabulary -/

/-- A query without rows, made by this reader of templates. -/
def executeWith (read : TemplateReader) (client : Client) (template : String) (values : List String) :
    Exchange ClientError Unit := do
  let body ← client.send false (read template values)
  match body.failure with
  | some t => throw (.badResponse t)
  | none => return ()

/-- A migration, with its queries made by this reader of templates. -/
def applyWith (read : TemplateReader) (c : Connection) (m : Migration) (statements : List String) (user : String)
    (now : Instant) : Exchange Fault Record := do
  let failed (words : String) (e : ClientError) : Fault := .migrationFailed m.version m.name (words ++ e.message)
  statements.forM fun s => explain (failed "") (executeWith read (databaseClient c) (doubleMarks s) [])
  let r := m.record user now.truncateToMillis
  explain (failed "failed to record migration: ")
    (executeWith read (databaseClient c) (Query.addRecord c) (recordValues r))
  return r

theorem applyWith_fill : applyWith fill = apply := rfl

/-- The server has done what it was asked for. -/
def Agrees (x : ServerTurn) : Prop := (readReply x.answer >>= acknowledged) = .ok ()

/-- The turns of a migration, and how it ends: each statement is sent once and as it is, up to the first that the server
refuses. If there is none, the record is sent last. The migration ends with its record if the server has taken that, and
with a fault that names the migration otherwise. -/
inductive Verbatim (m : Migration) (insert : String) (r : Record) :
    List String → List ServerTurn → Except Fault Record → Prop
  | refused {s : String} {rest : List String} {x : ServerTurn} (hx : x.question.sql = s) (hrefused : ¬Agrees x)
      (reason : String) : Verbatim m insert r (s :: rest) [x] (.error (.migrationFailed m.version m.name reason))
  | accepted {s : String} {rest : List String} {x : ServerTurn} {t : List ServerTurn} {a : Except Fault Record}
      (hx : x.question.sql = s) (hagrees : Agrees x) (h : Verbatim m insert r rest t a) :
      Verbatim m insert r (s :: rest) (x :: t) a
  | unrecorded {x : ServerTurn} (hx : x.question.sql = insert) (hrefused : ¬Agrees x) (reason : String) :
      Verbatim m insert r [] [x] (.error (.migrationFailed m.version m.name reason))
  | recorded {x : ServerTurn} (hx : x.question.sql = insert) (hagrees : Agrees x) : Verbatim m insert r [] [x] (.ok r)

/-- Whatever the server answers, the exchange takes the turns of this migration. -/
def SendsVerbatim (c : Connection) (m : Migration) (statements : List String) (r : Record)
    (x : Exchange Fault Record) : Prop :=
  ∃ insert, fill (Query.addRecord c) (recordValues r) = some insert ∧
    ∀ t a, Converses x.run t a → Verbatim m insert r statements t a

/-- The migration has come to a statement of this kind and ends there with a fault that names it. The statements before
have been sent as they are, and the server has accepted them. -/
def StopsAt (kind : String → Prop) (m : Migration) (statements : List String) (t : List ServerTurn)
    (a : Except Fault Record) : Prop :=
  ∃ before s after reason, statements = before ++ s :: after ∧ kind s ∧ t.map (·.question.sql) = before ∧
    (∀ x ∈ t, Agrees x) ∧ a = .error (.migrationFailed m.version m.name reason)

/-- A session on the database has been opened. -/
def Opened (c : Connection) : Prop := ∃ t, Converses (connect c).run t (.ok ())

/-! ## Sessions -/

/-- What is sent before a session is opened can be sent in it. -/
theorem Opened.proper {c : Connection} (h : Opened c) : Proper c := by
  obtain ⟨t, ht⟩ := h
  refine ⟨(converses_connect ht).2 rfl, ?_⟩
  rw [connect_eq] at ht
  obtain ⟨e, -, he⟩ | ⟨u, there, v, -, hu, -⟩ := converses_exceptT_bind.1 ht
  · cases he
  unfold databaseExists at hu
  obtain ⟨e, -, he⟩ | ⟨u, _, v, -, -, hrest⟩ := converses_exceptT_bind.1 hu
  · cases he
  obtain ⟨e, -, he⟩ | ⟨u, n, v, -, hasked, -⟩ := converses_exceptT_bind.1 hrest
  · cases he
  cases hrequest : (serverClient c).request true
      (fill (Query.databaseCount ++ " FORMAT RowBinary") [textLiteral c.database]) with
  | ok q => exact sends_of_request hrequest
  | error e =>
    -- a client that cannot send fails
    have hsilent : Silent ((serverClient c).fetchOne word Query.databaseCount [textLiteral c.database]) :=
      ((silent_send hrequest).bind _).bind _
    obtain ⟨f, hf⟩ := hsilent.explain fun e =>
      .connection ("failed to reach ClickHouse at " ++ c.serverAddress ++ ": " ++ e.message)
    rw [hf] at hasked
    cases (converses_done.1 hasked).2

/-! ## One query -/

section

variable {read : TemplateReader} {client : Client} {template sql : String} {values : List String}

theorem poses_executeWith : Poses (executeWith read client template values) (read template values)
    fun reply => readReply reply >>= acknowledged := by
  refine (poses_send client false (read template values)).bind fun body => ?_
  unfold acknowledged
  cases body.failure <;> rfl

theorem speaks_executeWith (h : client.Sends) (hread : read template values = some sql) :
    Speaks (executeWith read client template values) := by
  obtain ⟨q, hq⟩ := h.request false sql
  exact (speaks_send (hread ▸ hq)).bind _

/-- A query that can be made is sent as it was made. If the server does what it is asked for the exchange goes on, and
otherwise it ends there. -/
theorem converses_executeWith_bind {α : Type} (h : client.Sends) (hread : read template values = some sql)
    {fault : ClientError → Fault} {f : Unit → Exchange Fault α} {t : List ServerTurn} {a : Except Fault α}
    (ht : Converses (explain fault (executeWith read client template values) >>= f).run t a) :
    ∃ x v, t = x :: v ∧ x.question.sql = sql ∧
      (Agrees x ∧ Converses (f ()).run v a ∨ ¬Agrees x ∧ v = [] ∧ ∃ e, a = .error (fault e)) := by
  obtain hsilent | ⟨q, hq, hput⟩ := poses_executeWith.explain fault
  · exact absurd ((speaks_executeWith h hread).explain fault) (Silent.not_speaks hsilent)
  obtain ⟨reply, v, rfl, hends⟩ := converses_bind_of_put hput ht
  rw [hread] at hq
  refine ⟨⟨q, reply⟩, v, rfl, (Option.some.inj hq).symm, ?_⟩
  unfold Agrees
  cases hheard : readReply reply >>= acknowledged with
  | ok u =>
    rw [hheard] at hends
    obtain ⟨e, he, -⟩ | ⟨u, -, hv⟩ := hends
    · cases he
    · exact .inl ⟨rfl, hv⟩
  | error e =>
    rw [hheard] at hends
    obtain ⟨f, hf, rfl, rfl⟩ | ⟨u, hu, -⟩ := hends
    · exact .inr ⟨nofun, rfl, e, congrArg _ (Except.error.inj hf).symm⟩
    · cases hu

theorem agrees_good (q : Request) : Agrees ⟨q, goodReply []⟩ := by
  have hread : (readReply (goodReply []) >>= acknowledged) = acknowledged (.ofBytes []) := rfl
  rw [Agrees, hread, ofBytes_nil]
  rfl

/-- A query that can be made finds a server that does what it is asked for. -/
theorem exists_converses_executeWith (h : client.Sends) (hread : read template values = some sql)
    (fault : ClientError → Fault) :
    ∃ x, Agrees x ∧ Converses (explain fault (executeWith read client template values)).run [x] (.ok ()) := by
  have hspeaks := (speaks_executeWith h hread).explain fault
  obtain ⟨q, -, hq⟩ := (poses_executeWith.explain fault).converses_of_speaks hspeaks (goodReply [])
  rw [agrees_good q] at hq
  exact ⟨⟨q, goodReply []⟩, agrees_good q, hq⟩

end

/-! ## All queries -/

section

variable {c : Connection} {m : Migration} {s : String} {statements : List String} {user : String} {now : Instant}
  {read : TemplateReader} {t : List ServerTurn} {a : Except Fault Record}

theorem exchange_bind_assoc {α β γ : Type} (x : Exchange Fault α) (f : α → Exchange Fault β) (g : β → Exchange Fault γ) :
    ((x >>= f) >>= g).run = (x >>= fun a => f a >>= g).run := by
  change Dialogue.bind (Dialogue.bind x.run (ExceptT.bindCont f)) (ExceptT.bindCont g) = Dialogue.bind x.run _
  rw [Dialogue.bind_assoc]
  congr 1
  funext r
  cases r <;> rfl

/-- The first statement is sent first. -/
theorem run_applyWith_cons : (applyWith read c m (s :: statements) user now).run =
    (explain (fun e => .migrationFailed m.version m.name ("" ++ e.message))
      (executeWith read (databaseClient c) (doubleMarks s) []) >>= fun _ =>
        applyWith read c m statements user now).run :=
  exchange_bind_assoc _ _ _

/-- A statement of which no query can be made ends the migration, and nothing is sent for it. -/
theorem run_applyWith_unread (hs : read (doubleMarks s) [] = none) :
    (applyWith read c m (s :: statements) user now).run =
      .done (.error (.migrationFailed m.version m.name ("" ++ ClientError.unboundPlace.message))) := by
  rw [run_applyWith_cons]
  unfold executeWith
  rw [hs]
  rfl

theorem StopsAt.cons {kind : String → Prop} {x : ServerTurn} (hx : x.question.sql = s) (hagrees : Agrees x)
    (h : StopsAt kind m statements t a) : StopsAt kind m (s :: statements) (x :: t) a := by
  obtain ⟨before, s', after, reason, rfl, hkind, rfl, ht, rfl⟩ := h
  exact ⟨s :: t.map (·.question.sql), s', after, reason, rfl, hkind, by rw [List.map_cons, hx],
    List.forall_mem_cons.2 ⟨hagrees, ht⟩, rfl⟩

/-- If every text is read as it was meant or not at all, a migration sends its statements as they are up to the first
that is not read. -/
theorem verbatim_or_stopsAt (hsends : (databaseClient c).Sends) {insert : String}
    (hstatements : ∀ s ∈ statements, read (doubleMarks s) [] = some s ∨ read (doubleMarks s) [] = none)
    (hinsert : read (Query.addRecord c) (recordValues (m.record user now.truncateToMillis)) = some insert)
    (h : Converses (applyWith read c m statements user now).run t a) :
    Verbatim m insert (m.record user now.truncateToMillis) statements t a ∨
      StopsAt (fun s => read (doubleMarks s) [] = none) m statements t a := by
  induction statements generalizing t with
  | nil =>
    obtain ⟨x, v, rfl, hx, ⟨hagrees, hv⟩ | ⟨hrefused, rfl, e, rfl⟩⟩ := converses_executeWith_bind hsends hinsert h
    · obtain ⟨rfl, rfl⟩ := converses_done.1 hv
      exact .inl (.recorded hx hagrees)
    · exact .inl (.unrecorded hx hrefused _)
  | cons s statements ih =>
    rw [List.forall_mem_cons] at hstatements
    obtain hs | hs := hstatements.1
    · rw [run_applyWith_cons] at h
      obtain ⟨x, v, rfl, hx, ⟨hagrees, hv⟩ | ⟨hrefused, rfl, e, rfl⟩⟩ := converses_executeWith_bind hsends hs h
      · exact (ih hstatements.2 hv).imp (.accepted hx hagrees) (.cons hx hagrees)
      · exact .inl (.refused hx hrefused _)
    · rw [run_applyWith_unread hs] at h
      obtain ⟨rfl, rfl⟩ := converses_done.1 h
      exact .inr ⟨[], s, statements, _, rfl, hs, rfl, by simp, rfl⟩

/-- If every text is read as it was meant, a migration sends all its statements as they are. -/
theorem sendsVerbatim_of_reads (hsends : (databaseClient c).Sends) {insert : String}
    (hfill : fill (Query.addRecord c) (recordValues (m.record user now.truncateToMillis)) = some insert)
    (hstatements : ∀ s ∈ statements, read (doubleMarks s) [] = some s)
    (hinsert : read (Query.addRecord c) (recordValues (m.record user now.truncateToMillis)) = some insert) :
    SendsVerbatim c m statements (m.record user now.truncateToMillis) (applyWith read c m statements user now) := by
  refine ⟨insert, hfill, fun t a h => ?_⟩
  obtain hverbatim | ⟨before, s, after, _, rfl, hnone, -⟩ :=
    verbatim_or_stopsAt hsends (fun s hs => .inl (hstatements s hs)) hinsert h
  · exact hverbatim
  · rw [hstatements s (by simp)] at hnone
    cases hnone

/-- A migration that fails though the server has done all that it was asked for. -/
theorem exists_unsent (hsends : (databaseClient c).Sends) (hmark : ∃ s ∈ statements, placeMark ∈ s.toList) :
    ∃ t f, Converses (apply c m statements user now).run t (.error f) ∧ ∀ x ∈ t, Agrees x := by
  rw [← applyWith_fill]
  induction statements with
  | nil => simp at hmark
  | cons s statements ih =>
    by_cases hs : placeMark ∈ s.toList
    · rw [run_applyWith_unread (by rw [fill_doubleMarks, if_pos hs])]
      exact ⟨[], _, .done _, by simp⟩
    · have hsql : fill (doubleMarks s) [] = some s := by rw [fill_doubleMarks, if_neg hs]
      have hrest : ∃ s ∈ statements, placeMark ∈ s.toList := by simpa [hs] using hmark
      obtain ⟨x, hx, hsent⟩ := exists_converses_executeWith hsends hsql fun e =>
        .migrationFailed m.version m.name ("" ++ e.message)
      obtain ⟨t, f, ht, hagree⟩ := ih hrest
      rw [run_applyWith_cons]
      refine ⟨[x] ++ t, f, converses_exceptT_bind.2 (.inr ⟨[x], (), t, rfl, hsent, ht⟩), ?_⟩
      simpa [hx] using hagree

/-- A migration that goes as it should fails only if the server has refused something. -/
theorem Verbatim.exists_refused {insert : String} {r : Record} {f : Fault}
    (h : Verbatim m insert r statements t (.error f)) : ∃ x ∈ t, ¬Agrees x := by
  generalize ha : Except.error f = a at h
  induction h with
  | refused _ hrefused | unrecorded _ hrefused => exact ⟨_, List.mem_singleton_self _, hrefused⟩
  | accepted _ _ _ ih =>
    obtain ⟨x, hx, hrefused⟩ := ih ha
    exact ⟨x, List.mem_cons_of_mem _ hx, hrefused⟩
  | recorded => cases ha

theorem not_sendsVerbatim_of_mark (hsends : (databaseClient c).Sends) (hmark : ∃ s ∈ statements, placeMark ∈ s.toList)
    (r : Record) : ¬SendsVerbatim c m statements r (apply c m statements user now) := by
  rintro ⟨insert, -, h⟩
  obtain ⟨t, f, ht, hagree⟩ := exists_unsent hsends hmark
  obtain ⟨x, hx, hrefused⟩ := (h t _ ht).exists_refused
  exact hrefused (hagree x hx)

/-- A migration sends its statements as they are, one after another until the server refuses one, and its record after
them, exactly if there are no marks in them. In any case it does so up to the first statement with a mark, at which it
ends with a fault. With a reader to which two marks are one every migration would send its statements as they are. -/
theorem apply_verbatim_iff (h : Opened c) (m : Migration) (statements : List String) (user : String) (now : Instant) :
    (SendsVerbatim c m statements (m.record user now.truncateToMillis) (apply c m statements user now) ↔
      ∀ s ∈ statements, placeMark ∉ s.toList) ∧
    (∃ insert, fill (Query.addRecord c) (recordValues (m.record user now.truncateToMillis)) = some insert ∧
      ∀ t a, Converses (apply c m statements user now).run t a →
        Verbatim m insert (m.record user now.truncateToMillis) statements t a ∨
          StopsAt (fun s => placeMark ∈ s.toList) m statements t a) ∧
    ∀ read, ReadsDoubled read →
      SendsVerbatim c m statements (m.record user now.truncateToMillis) (applyWith read c m statements user now) := by
  have hnames : HasNames c := h.proper.names
  have hsends : (databaseClient c).Sends := h.proper.databaseClient_sends
  obtain ⟨insert, hinsert⟩ := fill_eq_some (recordValues (m.record user now.truncateToMillis))
    (Nat.le_of_eq (hnames.places_extended (.addRecord _)))
  refine ⟨⟨fun hverbatim s hs hmark => ?_, fun hplain => ?_⟩, ⟨insert, hinsert, fun t a ht => ?_⟩, fun read hread => ?_⟩
  · exact not_sendsVerbatim_of_mark hsends ⟨s, hs, hmark⟩ _ hverbatim
  · rw [← applyWith_fill]
    exact sendsVerbatim_of_reads hsends hinsert (fun s hs => by rw [fill_doubleMarks, if_neg (hplain s hs)]) hinsert
  · rw [← applyWith_fill] at ht
    have hstatements : ∀ s ∈ statements, fill (doubleMarks s) [] = some s ∨ fill (doubleMarks s) [] = none := by
      intro s _
      rw [fill_doubleMarks]
      split
      · exact .inr rfl
      · exact .inl rfl
    have hunread : (fun s => fill (doubleMarks s) [] = none) = fun s => placeMark ∈ s.toList := by
      funext s
      simp [fill_doubleMarks]
    rw [← hunread]
    exact verbatim_or_stopsAt hsends hstatements hinsert ht
  · exact sendsVerbatim_of_reads hsends hinsert (fun s _ => hread.doubleMarks s) (hnames.renders_addRecord hread _ hinsert)

end

/-! ## A statement with a mark -/

theorem opened_localServer : Opened localServer := by
  obtain ⟨q, hq⟩ := proper_localServer.connect
  exact ⟨_, hq⟩

/-- A question mark in a literal. -/
def markInLiteral : Migration := ⟨1, "m", "1_m.sql", "SELECT '?'"⟩

theorem apply_verbatim_iff_markInLiteral :
    Opened localServer ∧
    ¬SendsVerbatim localServer markInLiteral ["SELECT '?'"] (markInLiteral.record "ann" ⟨0, 0⟩)
      (apply localServer markInLiteral ["SELECT '?'"] "ann" ⟨0, 0⟩) ∧
    SendsVerbatim localServer markInLiteral ["SELECT '?'"] (markInLiteral.record "ann" ⟨0, 0⟩)
      (applyWith fillSingle localServer markInLiteral ["SELECT '?'"] "ann" ⟨0, 0⟩) := by
  obtain ⟨hiff, -, hread⟩ := apply_verbatim_iff opened_localServer markInLiteral ["SELECT '?'"] "ann" ⟨0, 0⟩
  refine ⟨opened_localServer, fun h => ?_, hread fillSingle readsDoubled_fillSingle⟩
  exact hiff.1 h "SELECT '?'" List.mem_cons_self (by decide)

/-- Not every migration sends its statements as they are. -/
theorem not_sendsVerbatim_markInLiteral :
    ¬∀ (c : Connection) (m : Migration) (statements : List String) (user : String) (now : Instant), Opened c →
      SendsVerbatim c m statements (m.record user now.truncateToMillis) (apply c m statements user now) := by
  intro h
  have hmark : ∃ s ∈ ["SELECT '?'"], placeMark ∈ s.toList := ⟨_, List.mem_cons_self, by decide⟩
  exact not_sendsVerbatim_of_mark proper_localServer.databaseClient_sends hmark _
    (h localServer markInLiteral ["SELECT '?'"] "ann" ⟨0, 0⟩ opened_localServer)

end SchemaMigration.Clickhouse
