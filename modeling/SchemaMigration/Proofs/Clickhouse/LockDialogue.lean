import SchemaMigration.Proofs.Clickhouse.LockQuery

/-!
# Asking for the lock, query by query

`Poses`                    : an exchange of one query at most.
`poses_lockHolders`, `poses_addHolder`, `poses_removeHolder` : the queries of the lock.
`enter`, `settle`, `withdraw` : what is left of asking for the lock after its first, second and third query.
-/

namespace SchemaMigration.Clickhouse

set_option autoImplicit false

open Http (Request Reply)

/-! ## Exchanges of one query -/

/-- The exchange sends the query and ends in what it makes of the reply, or it fails and sends nothing. -/
def Poses {ε α : Type} (x : Exchange ε α) (query : Option String) (hear : Option Reply → Except ε α) : Prop :=
  (∃ e, x.run = .done (.error e)) ∨ ∃ q, query = some q.sql ∧ x.run = .put q fun reply => .done (hear reply)

section

variable {ε α β : Type} {x : Exchange ε α} {query : Option String} {hear : Option Reply → Except ε α}

theorem run_bind (x : Exchange ε α) (f : α → Exchange ε β) :
    (x >>= f).run = Dialogue.bind x.run (ExceptT.bindCont f) := rfl

/-- What is made of the reply may go on without the server. -/
theorem Poses.bind (h : Poses x query hear) {f : α → Exchange ε β} {g : α → Except ε β}
    (hf : ∀ a, (f a).run = .done (g a)) : Poses (x >>= f) query fun reply => hear reply >>= g := by
  have hcont : ∀ r : Except ε α, ExceptT.bindCont f r = Dialogue.done (r >>= g) := by
    rintro (e | a)
    · rfl
    · exact hf a
  obtain ⟨e, he⟩ | ⟨q, hq, hput⟩ := h
  · exact .inl ⟨e, by rw [run_bind, he]; rfl⟩
  · refine .inr ⟨q, hq, ?_⟩
    rw [run_bind, hput]
    exact congrArg (Dialogue.put q) (funext fun reply => hcont _)

theorem Poses.put_bind (h : Poses x query hear) {f : α → Exchange ε β} {q : Request}
    {next : Option Reply → Dialogue Request (fun _ => Option Reply) (Except ε β)} (hput : (x >>= f).run = .put q next) :
    query = some q.sql ∧ ∀ reply, next reply = ExceptT.bindCont f (hear reply) := by
  rw [run_bind] at hput
  obtain ⟨e, he⟩ | ⟨p, hp, hx⟩ := h
  · rw [he] at hput
    exact absurd hput (by simp [Dialogue.bind, ExceptT.bindCont, pure])
  · rw [hx] at hput
    injection hput with hpq hnext
    subst hpq hnext
    exact ⟨hp, fun reply => rfl⟩

theorem Poses.explain {x : Exchange ClientError α} {hear : Option Reply → Except ClientError α}
    (h : Poses x query hear) (fault : ClientError → Fault) :
    Poses (Clickhouse.explain fault x) query fun reply => (hear reply).mapError fault := by
  have hrun : (Clickhouse.explain fault x).run = Dialogue.bind x.run (Dialogue.done ∘ Except.mapError fault) := rfl
  obtain ⟨e, he⟩ | ⟨q, hq, hput⟩ := h
  · exact .inl ⟨fault e, by rw [hrun, he]; rfl⟩
  · refine .inr ⟨q, hq, ?_⟩
    rw [hrun, hput]
    rfl

end

theorem request_eq_ok {client : Client} {readOnly : Bool} {query : Option String} {q : Request}
    (h : client.request readOnly query = .ok q) : query = some q.sql := by
  unfold Client.request at h
  cases query with
  | none => simp [bind, Except.bind, throw, throwThe, MonadExceptOf.throw] at h
  | some sql =>
    cases hurl : Http.Url.read client.address with
    | error e => simp [hurl, bind, Except.bind, throw, throwThe, MonadExceptOf.throw, pure, Except.pure] at h
    | ok url =>
      cases hheader : Http.isHeaderValue client.user && Http.isHeaderValue client.password with
      | false =>
        simp [hurl, hheader, bind, Except.bind, throw, throwThe, MonadExceptOf.throw, pure, Except.pure] at h
      | true =>
        simp only [hurl, hheader, bind, Except.bind, pure, Except.pure, if_true] at h
        rw [← Except.ok.inj h]

theorem poses_send (client : Client) (readOnly : Bool) (query : Option String) :
    Poses (client.send readOnly query) query readReply := by
  unfold Client.send
  cases h : client.request readOnly query with
  | error e => exact .inl ⟨e, rfl⟩
  | ok q => exact .inr ⟨q, request_eq_ok h, rfl⟩

/-- What a client makes of the body of a reply to a query without rows. -/
def acknowledged (body : Body) : Except ClientError Unit :=
  match body.failure with
  | some t => .error (.badResponse t)
  | none => .ok ()

/-- What a client makes of the body of a reply to a query for texts. -/
def texts (body : Body) : Except ClientError (List String) :=
  match Client.readBody text body with
  | (xs, none) => .ok xs
  | (_, some e) => .error e

theorem poses_execute (client : Client) (template : String) (values : List String) :
    Poses (client.execute template values) (fill template values) fun reply => readReply reply >>= acknowledged := by
  refine (poses_send client false (fill template values)).bind fun body => ?_
  unfold acknowledged
  cases body.failure <;> rfl

theorem poses_fetchAll (client : Client) (template : String) (values : List String) :
    Poses (client.fetchAll text template values) (fill (template ++ " FORMAT RowBinary") values)
      fun reply => readReply reply >>= texts := by
  have hsend := poses_send client true (fill (template ++ " FORMAT RowBinary") values)
  have hfetch : Poses (client.fetch text template values) (fill (template ++ " FORMAT RowBinary") values)
      fun reply => readReply reply >>= fun body => .ok (Client.readBody text body) :=
    hsend.bind fun _ => rfl
  have hall : Poses (client.fetchAll text template values) (fill (template ++ " FORMAT RowBinary") values)
      fun reply => (readReply reply >>= fun body => .ok (Client.readBody text body)) >>= fun rows =>
        match rows with
        | (xs, none) => .ok xs
        | (_, some e) => .error e := by
    refine hfetch.bind fun rows => ?_
    obtain ⟨xs, e | e⟩ := rows <;> rfl
  have hsame : (fun reply => (readReply reply >>= fun body => .ok (Client.readBody text body)) >>= fun rows =>
      match rows with
      | (xs, none) => .ok xs
      | (_, some e) => .error e) = fun reply => readReply reply >>= texts :=
    funext fun reply => by cases readReply reply <;> rfl
  rwa [hsame] at hall

/-! ## The three queries -/

/-- What a client makes of the reply to its question for the holders. -/
def hearHolders (reply : Option Reply) : Except Fault (List String) :=
  (readReply reply >>= texts).mapError (inDatabase "failed to read lock holder: ")

/-- What a client makes of the reply to a change of the holders. -/
def hearDone (words : String) (reply : Option Reply) : Except Fault Unit :=
  (readReply reply >>= acknowledged).mapError (inDatabase words)

theorem poses_lockHolders (c : Connection) : Poses (lockHolders c) (LockQuery.sql? c .read) hearHolders :=
  (poses_fetchAll _ _ _).explain _

/-- The question for the holders can be sent. -/
def CanRead (c : Connection) : Prop :=
  ∃ q, LockQuery.sql? c .read = some q.sql ∧ (lockHolders c).run = .put q fun reply => .done (hearHolders reply)

theorem canRead_of_put {α : Type} {c : Connection} {f : List String → Exchange Fault α} {q : Request}
    {next : Option Reply → Dialogue Request (fun _ => Option Reply) (Except Fault α)}
    (h : (lockHolders c >>= f).run = .put q next) : CanRead c := by
  obtain ⟨e, he⟩ | ⟨p, hp, hput⟩ := poses_lockHolders c
  · rw [run_bind, he] at h
    exact absurd h (by simp [Dialogue.bind, ExceptT.bindCont, pure])
  · exact ⟨p, hp, hput⟩

theorem poses_addHolder (c : Connection) (holder : String) :
    Poses (explain (inDatabase "failed to acquire lock: ")
        ((databaseClient c).execute (Query.addHolder c) [textLiteral holder]))
      (LockQuery.sql? c (.add holder)) (hearDone "failed to acquire lock: ") :=
  (poses_execute _ _ _).explain _

theorem poses_removeHolder (c : Connection) (holder : String) :
    Poses (removeHolder c holder) (LockQuery.sql? c (.remove holder)) (hearDone "failed to release lock: ") :=
  (poses_execute _ _ _).explain _

/-! ## Replies -/

/-- The reply of a server that has done what was asked, with the bytes of rows. -/
def goodReply (bytes : List UInt8) : Option Reply := some ⟨200, bytes⟩

theorem ofBytes_cases (bytes : List UInt8) :
    Body.ofBytes bytes = ⟨bytes, none⟩ ∨ ∃ t, (Body.ofBytes bytes).failure = some t := by
  unfold Body.ofBytes
  split
  · split
    · split
      · exact .inr ⟨_, rfl⟩
      · exact .inl rfl
    · exact .inl rfl
  · exact .inl rfl

theorem texts_eq_ok {body : Body} {xs : List String} (h : texts body = .ok xs) :
    body.failure = none ∧ rows text body.bytes = (xs, none) := by
  unfold texts Client.readBody at h
  cases hf : body.failure with
  | some t => rcases hr : rows text body.bytes with ⟨ys, _ | _ | _⟩ <;> simp [hf, hr] at h
  | none =>
    rcases hr : rows text body.bytes with ⟨ys, _ | _ | _⟩ <;> simp [hf, hr] at h
    rw [h]
    exact ⟨rfl, rfl⟩

/-- A client hears the holders that the server names, or nothing that it understands. -/
theorem hearHolders_names (names : List String) :
    hearHolders (goodReply (names.flatMap textBytes)) = .ok names ∨
      ∃ f, hearHolders (goodReply (names.flatMap textBytes)) = .error f := by
  have hhear : hearHolders (goodReply (names.flatMap textBytes)) =
      (texts (.ofBytes (names.flatMap textBytes))).mapError (inDatabase "failed to read lock holder: ") := rfl
  rw [hhear]
  cases h : texts (.ofBytes (names.flatMap textBytes)) with
  | error e => exact .inr ⟨_, rfl⟩
  | ok xs =>
    obtain ⟨hfailure, hrows⟩ := texts_eq_ok h
    obtain hbody | ⟨t, ht⟩ := ofBytes_cases (names.flatMap textBytes)
    · rw [hbody] at hrows
      obtain hnames | ⟨-, e, he⟩ := rows_texts names
      · obtain rfl := congrArg Prod.fst (hnames.symm.trans hrows)
        exact .inl rfl
      · simp [hrows] at he
    · simp [hfailure] at ht

theorem ofBytes_nil : Body.ofBytes [] = ⟨[], none⟩ := by
  have hmark : (bytesOf "))\n").length = 3 := length_utf8 _
  have hshort : ¬(bytesOf "))\n").isSuffixOf [] = true := by
    intro h
    have hle := (List.isSuffixOf_iff_suffix.1 h).length_le
    simp [hmark] at hle
  rw [Body.ofBytes, if_neg hshort]

theorem hearDone_good (words : String) : hearDone words (goodReply []) = .ok () := by
  have hhear : hearDone words (goodReply []) = (acknowledged (.ofBytes [])).mapError (inDatabase words) := rfl
  rw [hhear, ofBytes_nil]
  rfl

/-! ## The parts of asking -/

/-- Takes the row back after somebody else came first. -/
def withdraw (c : Connection) (holder first : String) : Exchange Fault LockOutcome :=
  removeHolder c holder >>= fun _ => pure (.heldBy first)

/-- What follows from the holders once the row is there. -/
def judge (c : Connection) (holder : String) (holders : List String) : Exchange Fault LockOutcome :=
  match holders.head? with
  | some first => if first == holder then pure .acquired else withdraw c holder first
  | none => throw (.database "lock row vanished right after it was written")

/-- Looks who came first, the row being there. -/
def settle (c : Connection) (holder : String) : Exchange Fault LockOutcome := lockHolders c >>= judge c holder

/-- Adds the row, nobody having asked before. -/
def enter (c : Connection) (holder : String) : Exchange Fault LockOutcome :=
  explain (inDatabase "failed to acquire lock: ")
    ((databaseClient c).execute (Query.addHolder c) [textLiteral holder]) >>= fun _ => settle c holder

/-- What follows from the holders before the row is there. -/
def consider (c : Connection) (holder : String) (holders : List String) : Exchange Fault LockOutcome :=
  match holders.head? with
  | some first => pure (if first == holder then .acquired else .heldBy first)
  | none => enter c holder

theorem tryLock_eq (c : Connection) (holder : String) : tryLock c holder = (lockHolders c >>= consider c holder) := rfl

end SchemaMigration.Clickhouse
