import SchemaMigration.Proofs.Clickhouse.Inquiries
import SchemaMigration.Proofs.Clickhouse.LockTable

/-!
# Names in what is sent

`Run.OpensFirst`     : runs that open their session before they make a call in one; the runs of this library do.
`Asks`               : what a call sends under accepted names.
`Guarded`            : a query in which only accepted names stand.
`Only`               : all that an exchange sends is of a kind.
`only_exchange`, `guarded_via` : what calls and runs send is guarded.
`createDatabase_injective` : the query that makes a database tells its name and its cluster.
`names_stay_names`   : no name leaves the quotes around it.

A name is checked in one place and written in others: the name of the database before anything is sent, that of the
cluster at the end of `connect`, and both in `createDatabase`. The queries of a session check nothing. What carries over
to them is `HasNames`, since a session that is open was opened by `connect`.
-/

namespace SchemaMigration

set_option autoImplicit false

/-- Whether the call needs an open session. -/
def Call.inSession : Call → Bool
  | databaseExists | createDatabase | connect => false
  | _ => true

namespace Run

/-! ## Runs that open their session first -/

/-- The calls of a session come after it was opened. -/
inductive SessionsFirst : List Answered → Prop
  | nil : SessionsFirst []
  | opened (xs : List Answered) : SessionsFirst (⟨.connect, .ok ()⟩ :: xs)
  | outside {x : Answered} {xs : List Answered} (hx : x.call.inSession = false) (h : SessionsFirst xs) :
      SessionsFirst (x :: xs)

/-- In each of its courses the run opens a session before it makes a call in one. -/
def OpensFirst {α : Type} (r : Run α) : Prop := ∀ xs e, Course r.run xs e → SessionsFirst xs

theorem SessionsFirst.connected {xs : List Answered} (h : SessionsFirst xs) {x : Answered} (hx : x ∈ xs)
    (hsession : x.call.inSession = true) : ⟨.connect, .ok ()⟩ ∈ xs := by
  induction h with
  | nil => cases hx
  | opened xs => exact List.mem_cons_self
  | outside hy _ ih =>
    obtain rfl | hx := List.mem_cons.1 hx
    · rw [hy] at hsession
      cases hsession
    · exact List.mem_cons_of_mem _ (ih hx)

theorem Opens.sessionsFirst {o : RunOptions} {xs rest : List Answered} {e : Except Fault Unit} (h : Opens o xs e)
    (hrest : ∀ f, e = .error f → rest = []) : SessionsFirst (xs ++ rest) := by
  have hnil : ∀ f, e = .error f → SessionsFirst rest := by
    intro f hf
    rw [hrest f hf]
    exact .nil
  have hconnect (e : Except Fault Unit) (he : ∀ f, e = .error f → SessionsFirst rest) :
      SessionsFirst (⟨.connect, e⟩ :: rest) := by
    cases e with
    | error f => exact .outside rfl (he f rfl)
    | ok => exact .opened rest
  cases h with
  | unasked f => exact .outside rfl (hnil f rfl)
  | found e => exact .outside rfl (hconnect e hnil)
  | absent => exact .outside rfl (hnil _ rfl)
  | uncreated _ f => exact .outside rfl (.outside rfl (hnil f rfl))
  | created _ e => exact .outside rfl (.outside rfl (hconnect e hnil))

theorem opensFirst_migrate (o : RunOptions) (folder : Folder) : (migrate o folder).OpensFirst := by
  intro xs e h
  obtain ⟨opening, rest, opened, rfl, hopens, -, hfault⟩ := (course_migrate h).split
  exact hopens.sessionsFirst fun f hf => (hfault f hf).1

theorem Looks.sessionsFirst {xs : List Answered} {e : Except Fault (Bool × List Record)} (h : Looks xs e) :
    SessionsFirst xs := by
  cases h with
  | unasked | absent => exact .outside rfl .nil
  | unconnected => exact .outside rfl (.outside rfl .nil)
  | unread | read => exact .outside rfl (.opened _)

theorem opensFirst_plan (folder : Folder) : (plan folder).OpensFirst := by
  intro xs e h
  obtain ⟨f, -, rfl, -⟩ | ⟨set, found, -, hlooks, -⟩ := course_plan h
  · exact .nil
  · exact hlooks.sessionsFirst

theorem opensFirst_status (folder : Folder) : (status folder).OpensFirst := by
  intro xs e h
  obtain ⟨planned, hplan, -⟩ := course_status h
  exact opensFirst_plan folder xs planned hplan

theorem opensFirst_forceUnlock : forceUnlock.OpensFirst := by
  intro xs e h
  obtain ⟨f, rfl, -⟩ | rfl := course_forceUnlock h
  · exact .outside rfl .nil
  · exact .opened _

end Run

namespace Clickhouse

open Dialogue (Converses converses_done converses_exceptT_bind)
open Http (Request Reply)
open Run (Course OpensFirst SessionsFirst Talks)
open Time (Instant)

/-! ## What is sent -/

/-- The question whether the database is there, in which its name is a value. -/
def existenceQuestion (c : Connection) : Option String :=
  fill (Query.databaseCount ++ " FORMAT RowBinary") [textLiteral c.database]

/-- What a call sends under accepted names: a question for a table, a query that is built from the names, or a statement
of its migration. -/
inductive Asks (c : Connection) (call : Call) (sql : String) : Prop
  | table (table : String)
      (h : fill (Query.tableCount ++ " FORMAT RowBinary") [textLiteral c.database, textLiteral table] = some sql)
  | inquiry (q : Inquiry) (h : fill (q.extended c) q.values = some sql)
  | statement (m : Migration) (statements : List String) (user s : String) (hcall : call = .apply m statements user)
      (hs : s ∈ statements) (h : fill (doubleMarks s) [] = some sql)

/-- What may be sent: the question for a database with an accepted name, or, if all names are accepted, a query of a
kind. -/
def Guarded (c : Connection) (kind : String → Prop) (sql : String) : Prop :=
  isName c.database = true ∧ (existenceQuestion c = some sql ∨ HasNames c ∧ kind sql)

theorem Guarded.mono {c : Connection} {kind kind' : String → Prop} {sql : String} (h : Guarded c kind sql)
    (hkind : kind sql → kind' sql) : Guarded c kind' sql :=
  ⟨h.1, h.2.imp_right fun hsql => ⟨hsql.1, hkind hsql.2⟩⟩

/-- All that the exchange sends is of a kind. -/
def Only {ε α : Type} (kind : String → Prop) (x : Exchange ε α) : Prop :=
  ∀ t a, Converses x.run t a → ∀ y ∈ t, kind y.question.sql

section

variable {ε α β : Type} {kind : String → Prop}

theorem Only.mono {kind' : String → Prop} {x : Exchange ε α} (hx : Only kind x)
    (h : ∀ sql, kind sql → kind' sql) : Only kind' x :=
  fun t a ht y hy => h _ (hx t a ht y hy)

theorem Only.of_run_eq_done {x : Exchange ε α} {a : Except ε α} (h : x.run = .done a) : Only kind x := by
  intro t b ht
  rw [h] at ht
  obtain ⟨rfl, -⟩ := converses_done.1 ht
  simp

theorem Poses.only {x : Exchange ε α} {query : Option String} {hear : Option Reply → Except ε α}
    (h : Poses x query hear) (hquery : ∀ sql, query = some sql → kind sql) : Only kind x := by
  intro t a ht
  obtain ⟨-, rfl, -⟩ | ⟨q, reply, hq, rfl, -⟩ := h.converses ht
  · simp
  · simpa using hquery q.sql hq

/-- What comes after a part may count on the end of that part. -/
theorem Only.bind {x : Exchange ε α} {f : α → Exchange ε β} (hx : Only kind x)
    (hf : ∀ t a, Converses x.run t (.ok a) → Only kind (f a)) : Only kind (x >>= f) := by
  intro t b ht
  obtain ⟨e, he, -⟩ | ⟨u, a, v, rfl, hu, hv⟩ := converses_exceptT_bind.1 ht
  · exact hx t _ he
  · intro y hy
    obtain hy | hy := List.mem_append.1 hy
    · exact hx u _ hu y hy
    · exact hf u a hu v b hv y hy

theorem Only.forM {ι : Type} {xs : List ι} {f : ι → Exchange ε Unit} (h : ∀ x ∈ xs, Only kind (f x)) :
    Only kind (xs.forM f) := by
  induction xs with
  | nil => exact .of_run_eq_done (a := .ok ()) rfl
  | cons x xs ih =>
    rw [List.forall_mem_cons] at h
    exact h.1.bind fun _ _ _ => ih h.2

theorem Only.explain {x : Exchange ClientError α} (hx : Only kind x) (fault : ClientError → Fault) :
    Only kind (explain fault x) := by
  intro t b ht
  change Converses (Dialogue.bind x.run (Dialogue.done ∘ Except.mapError fault)) t b at ht
  obtain ⟨u, a, v, rfl, hu, hv⟩ := Dialogue.converses_bind.1 ht
  obtain ⟨rfl, -⟩ := converses_done.1 hv
  rw [List.append_nil]
  exact hx u a hu

theorem only_execute {client : Client} {template : String} {values : List String}
    (h : ∀ sql, fill template values = some sql → kind sql) : Only kind (client.execute template values) :=
  (poses_execute client template values).only h

theorem only_fetchOne {client : Client} {row : Field α} {template : String} {values : List String}
    (h : ∀ sql, fill (template ++ " FORMAT RowBinary") values = some sql → kind sql) :
    Only kind (client.fetchOne row template values) :=
  (poses_fetchOne client row template values).only h

theorem only_fetchAll {client : Client} {row : Field α} {template : String} {values : List String}
    (h : ∀ sql, fill (template ++ " FORMAT RowBinary") values = some sql → kind sql) :
    Only kind (client.fetchAll row template values) := by
  have hfetch : Poses (client.fetch row template values) (fill (template ++ " FORMAT RowBinary") values)
      fun reply => readReply reply >>= fun body => .ok (Client.readBody row body) :=
    (poses_send client true _).bind fun body => rfl
  refine (hfetch.only h).bind fun t rows _ => ?_
  obtain ⟨xs, e | e⟩ := rows
  · exact .of_run_eq_done (a := .ok xs) rfl
  · exact .of_run_eq_done (a := .error e) rfl

end

/-! ## Calls -/

section

variable {c : Connection} {call : Call}

theorem only_databaseExists :
    Only (fun sql => isName c.database = true ∧ existenceQuestion c = some sql) (databaseExists c) := by
  unfold databaseExists
  refine (Only.of_run_eq_done (x := ofExcept _) rfl).bind fun t _ hname => ?_
  have hdatabase := checkName_eq_ok.1 (converses_ofExcept.1 hname).2.symm
  exact ((only_fetchOne fun sql hsql => ⟨hdatabase, hsql⟩).explain _).bind fun _ n _ =>
    .of_run_eq_done (a := .ok (decide (0 < n))) rfl

/-- The question for the database is all that is sent before a session is opened. -/
theorem only_connect : Only (fun sql => isName c.database = true ∧ existenceQuestion c = some sql) (connect c) := by
  rw [connect_eq]
  refine only_databaseExists.bind fun _ there _ => ?_
  cases there with
  | false => exact .of_run_eq_done (a := .error (.databaseMissing c.database)) rfl
  | true =>
    cases c.cluster with
    | none => exact .of_run_eq_done (a := .ok ()) rfl
    | some cluster => exact .of_run_eq_done (a := checkName "cluster" cluster) rfl

theorem hasNames_of_checkNames (h : checkNames c = .ok ()) : HasNames c := by
  unfold checkNames at h
  cases hdatabase : checkName "database" c.database with
  | error f =>
    rw [hdatabase] at h
    cases h
  | ok =>
    rw [hdatabase] at h
    refine ⟨checkName_eq_ok.1 hdatabase, fun cluster hmem => ?_⟩
    rw [Option.mem_def.1 hmem] at h
    exact checkName_eq_ok.1 h

theorem only_createDatabase : Only (fun sql => HasNames c ∧ Asks c .createDatabase sql) (createDatabase c) := by
  unfold createDatabase
  refine (Only.of_run_eq_done (x := ofExcept _) rfl).bind fun t _ hnames => ?_
  have hasNames := hasNames_of_checkNames (converses_ofExcept.1 hnames).2.symm
  exact (only_execute fun sql hsql => ⟨hasNames, .inquiry .createDatabase hsql⟩).explain _

/-! ## Calls of a session -/

theorem only_ensureTables : Only (Asks c call) (ensureTables c) := by
  refine Only.bind ((only_execute fun _ hsql => .inquiry .createRecordTable hsql).explain _) fun _ _ _ => ?_
  refine Only.bind ((only_execute fun _ hsql => .inquiry .createLockTable hsql).explain _) fun _ _ _ => ?_
  exact .of_run_eq_done (a := .ok ()) rfl

theorem only_tableExists (table : String) : Only (Asks c call) (tableExists c table) :=
  ((only_fetchOne fun _ hsql => .table table hsql).explain _).bind fun _ n _ =>
    .of_run_eq_done (a := .ok (decide (0 < n))) rfl

theorem only_lockHolders : Only (Asks c call) (lockHolders c) :=
  (only_fetchAll fun _ hsql => .inquiry .holders hsql).explain _

theorem only_removeHolder (holder : String) : Only (Asks c call) (removeHolder c holder) :=
  (only_execute fun _ hsql => .inquiry (.removeHolder holder) hsql).explain _

theorem only_tryLock (holder : String) : Only (Asks c call) (tryLock c holder) := by
  have hwithdraw (first : String) : Only (Asks c call) (withdraw c holder first) :=
    (only_removeHolder holder).bind fun _ _ _ => .of_run_eq_done (a := .ok (.heldBy first)) rfl
  have hjudge (holders : List String) : Only (Asks c call) (judge c holder holders) := by
    unfold judge
    split
    · split
      · exact .of_run_eq_done (a := .ok .acquired) rfl
      · exact hwithdraw _
    · exact .of_run_eq_done (a := .error _) rfl
  have henter : Only (Asks c call) (enter c holder) :=
    Only.bind ((only_execute fun _ hsql => .inquiry (.addHolder holder) hsql).explain _) fun _ _ _ =>
      only_lockHolders.bind fun _ holders _ => hjudge holders
  rw [tryLock_eq]
  refine only_lockHolders.bind fun _ holders _ => ?_
  unfold consider
  split
  · exact .of_run_eq_done (a := .ok _) rfl
  · exact henter

theorem only_forceUnlock : Only (Asks c call) (forceUnlock c) := by
  rw [forceUnlock_eq]
  refine (only_tableExists lockTable).bind fun _ there _ => ?_
  cases there with
  | false => exact .of_run_eq_done (a := .ok false) rfl
  | true =>
    refine only_lockHolders.bind fun _ holders _ => ?_
    split
    · exact .of_run_eq_done (a := .ok false) rfl
    · exact Only.bind ((only_execute fun _ hsql => .inquiry .clearHolders hsql).explain _) fun _ _ _ =>
        .of_run_eq_done (a := .ok true) rfl

theorem appliedRecords_eq (c : Connection) : appliedRecords c = tableExists c recordTable >>= fun there =>
    if there then explain (inDatabase "failed to query applied migrations: ")
        ((databaseClient c).fetchAll storedRecord (Query.records c) []) >>= fun rows =>
      ofExcept (rows.mapM StoredRecord.toRecord)
    else pure [] := rfl

theorem only_appliedRecords : Only (Asks c call) (appliedRecords c) := by
  rw [appliedRecords_eq]
  refine (only_tableExists recordTable).bind fun _ there _ => ?_
  cases there with
  | false => exact .of_run_eq_done (a := .ok []) rfl
  | true => exact Only.bind ((only_fetchAll fun _ hsql => .inquiry .records hsql).explain _) fun _ rows _ =>
      .of_run_eq_done (a := rows.mapM StoredRecord.toRecord) rfl

theorem only_apply (m : Migration) (statements : List String) (user : String) (now : Instant) :
    Only (Asks c (.apply m statements user)) (apply c m statements user now) := by
  unfold apply
  refine Only.bind (Only.forM fun s hs => ?_) fun _ _ _ => ?_
  · exact (only_execute fun _ hsql => .statement m statements user s rfl hs hsql).explain _
  · exact Only.bind ((only_execute fun _ hsql => .inquiry (.addRecord _) hsql).explain _) fun _ _ _ =>
      .of_run_eq_done (a := .ok _) rfl

/-- No call sends what is built from a name that is refused. -/
theorem only_exchange (now : Instant) (h : call.inSession = true → HasNames c) :
    Only (Guarded c (Asks c call)) (exchange c now call) := by
  have hopening {α : Type} {x : Exchange Fault α}
      (hx : Only (fun sql => isName c.database = true ∧ existenceQuestion c = some sql) x) :
      Only (Guarded c (Asks c call)) x :=
    hx.mono fun _ hsql => ⟨hsql.1, .inl hsql.2⟩
  have hsession {α : Type} {x : Exchange Fault α} (hnames : HasNames c) (hx : Only (Asks c call) x) :
      Only (Guarded c (Asks c call)) x :=
    hx.mono fun _ hsql => ⟨hnames.database, .inr ⟨hnames, hsql⟩⟩
  cases call with
  | databaseExists => exact hopening only_databaseExists
  | createDatabase => exact only_createDatabase.mono fun _ hsql => ⟨hsql.1.database, .inr hsql⟩
  | connect => exact hopening only_connect
  | ensureBookkeeping => exact hsession (h rfl) only_ensureTables
  | appliedRecords => exact hsession (h rfl) only_appliedRecords
  | tryLock holder => exact hsession (h rfl) (only_tryLock holder)
  | unlock holder => exact hsession (h rfl) (only_removeHolder holder)
  | forceUnlock => exact hsession (h rfl) only_forceUnlock
  | apply m statements user => exact hsession (h rfl) (only_apply m statements user now)

end

/-! ## Runs -/

section

variable {c : Connection} {now : Instant}

theorem guarded_talks {xs : List Answered} {t : List ServerTurn}
    (hnames : ∀ x ∈ xs, x.call.inSession = true → HasNames c) (h : Talks (engine c now) xs t) :
    ∀ y ∈ t, Guarded c (fun sql => ∃ x ∈ xs, Asks c x.call sql) y.question.sql := by
  induction h with
  | nil => simp
  | @cons x xs u v hx _ ih =>
    rw [List.forall_mem_cons] at hnames
    rw [List.forall_mem_append]
    refine ⟨fun y hy => ?_, fun y hy => ?_⟩
    · exact (only_exchange now hnames.1 u _ hx y hy).mono fun hasks => ⟨x, List.mem_cons_self, hasks⟩
    · exact (ih hnames.2 y hy).mono fun ⟨x, hx, hasks⟩ => ⟨x, List.mem_cons_of_mem _ hx, hasks⟩

/-- A run that opens its session first sends nothing that is built from a name that is refused. -/
theorem guarded_via {α : Type} {r : Run α} (hr : r.OpensFirst) {t : List ServerTurn} {conclusion : Run.Conclusion α}
    (h : Converses (r.via (engine c now)) t conclusion) : ∃ xs, Course r.run xs conclusion.result ∧
      ∀ y ∈ t, Guarded c (fun sql => ∃ x ∈ xs, Asks c x.call sql) y.question.sql := by
  obtain ⟨xs, hcourse, htalks⟩ := Run.converses_via.1 ⟨conclusion, h, rfl⟩
  refine ⟨xs, hcourse, guarded_talks (fun x hx hsession => ?_) htalks⟩
  exact hasNames_of_connect ((hr xs _ hcourse).connected hx hsession) htalks

end

/-! ## Names and queries -/

/-- Different names make different queries. -/
theorem createDatabase_injective {c d : Connection} (hc : HasNames c) (hd : HasNames d)
    (h : Query.createDatabase c = Query.createDatabase d) : c.database = d.database ∧ c.cluster = d.cluster := by
  have htokens := hc.lex_createDatabase
  rw [h, hd.lex_createDatabase] at htokens
  have hnames := congrArg (List.filterMap Token.name?) (Option.some.inj htokens)
  rw [Inquiry.names_tokens, Inquiry.names_tokens] at hnames
  obtain ⟨hdatabase, hcluster⟩ := List.cons.inj hnames
  have hhead := congrArg List.head? hcluster
  rw [Option.head?_toList, Option.head?_toList] at hhead
  exact ⟨hdatabase.symm, hhead.symm⟩

/-- Names that are refused could make the same query. -/
example : Query.createDatabase ⟨"localhost", "ann", "pw", "a` ON CLUSTER `b", none⟩ =
    Query.createDatabase ⟨"localhost", "ann", "pw", "a", some "b"⟩ := by decide

/-- No name leaves the quotes around it. No run sends a query that is built from a name that is refused, and in every
query that is built from accepted names these are the names, beside as many places as there are values. -/
theorem names_stay_names (c : Connection) (now : Instant) :
    (∀ (α : Type) (r : Run α), r.OpensFirst → ∀ t conclusion, Converses (r.via (engine c now)) t conclusion →
      ∃ xs, Course r.run xs conclusion.result ∧
        ∀ y ∈ t, Guarded c (fun sql => ∃ x ∈ xs, Asks c x.call sql) y.question.sql) ∧
    ((∀ o folder, (Run.migrate o folder).OpensFirst) ∧ (∀ folder, (Run.plan folder).OpensFirst) ∧
      (∀ folder, (Run.status folder).OpensFirst) ∧ Run.forceUnlock.OpensFirst) ∧
    (HasNames c → ∀ q : Inquiry, lex (q.template c) = some (q.tokens c.database c.cluster) ∧
      (q.tokens c.database c.cluster).filterMap Token.name? = q.names c.database c.cluster ∧
      (q.tokens c.database c.cluster).count .place = q.values.length ∧ places (q.extended c) = q.values.length) ∧
    ∀ d, HasNames c → HasNames d → Query.createDatabase c = Query.createDatabase d →
      c.database = d.database ∧ c.cluster = d.cluster := by
  refine ⟨fun α r hr t conclusion h => guarded_via hr h, ?_, fun h q => ?_, fun d => createDatabase_injective⟩
  · exact ⟨Run.opensFirst_migrate, Run.opensFirst_plan, Run.opensFirst_status, Run.opensFirst_forceUnlock⟩
  · exact ⟨h.lex_template q, q.names_tokens _ _, q.count_place_tokens _ _, h.places_extended q⟩

end Clickhouse

end SchemaMigration
