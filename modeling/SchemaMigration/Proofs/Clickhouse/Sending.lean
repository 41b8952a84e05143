import Mathlib.Data.List.Basic
import SchemaMigration.Proofs.Clickhouse.LockDialogue
import SchemaMigration.Proofs.Run.Conversation

/-!
# What can be sent

`Client.Sends` : a client's queries reach the wire, once their places are filled.
`fill_eq_some` : a template without more places than values can be filled.
`HasNames`     : the names of a connection can be written in queries.
`speaks_removeHolder` : whoever could ask for the holders can take a row back.
-/

namespace SchemaMigration.Clickhouse

set_option autoImplicit false

open Dialogue (Converses converses_done)
open Http (Request Reply)

/-- A request and what came back. -/
abbrev ServerTurn := Turn fun _ : Request => Option Reply

/-! ## Clients -/

/-- The client has an address, and a name and password that headers can carry. -/
def Client.Sends (client : Client) : Prop :=
  (∃ url, Http.Url.read client.address = .ok url) ∧
    (Http.isHeaderValue client.user && Http.isHeaderValue client.password) = true

theorem sends_of_request {client : Client} {readOnly : Bool} {query : Option String} {q : Request}
    (h : client.request readOnly query = .ok q) : client.Sends := by
  unfold Client.request at h
  cases query with
  | none => simp [bind, Except.bind, throw, throwThe, MonadExceptOf.throw] at h
  | some sql =>
    cases hurl : Http.Url.read client.address with
    | error e => simp [hurl, bind, Except.bind, throw, throwThe, MonadExceptOf.throw, pure, Except.pure] at h
    | ok url =>
      cases hheader : Http.isHeaderValue client.user && Http.isHeaderValue client.password with
      | false =>
        simp [hurl, hheader, bind, Except.bind, throw, throwThe, MonadExceptOf.throw, pure, Except.pure] at h
      | true => exact ⟨⟨url, hurl⟩, hheader⟩

theorem Client.Sends.request {client : Client} (h : client.Sends) (readOnly : Bool) (sql : String) :
    ∃ q, client.request readOnly (some sql) = .ok q := by
  obtain ⟨⟨url, hurl⟩, hheader⟩ := h
  simp [Client.request, hurl, hheader, bind, Except.bind, pure, Except.pure]

/-! ## Exchanges that speak, and exchanges that do not -/

section

variable {ε α β : Type} {x : Exchange ε α}

/-- The exchange begins with a request. -/
def Speaks (x : Exchange ε α) : Prop := ∃ q next, x.run = .put q next

/-- The exchange fails and sends nothing. -/
def Silent (x : Exchange ε α) : Prop := ∃ e, x.run = .done (.error e)

theorem Silent.not_speaks (h : Silent x) : ¬Speaks x := by
  obtain ⟨e, he⟩ := h
  rintro ⟨q, next, hput⟩
  simp [he] at hput

theorem Speaks.bind (h : Speaks x) (f : α → Exchange ε β) : Speaks (x >>= f) := by
  obtain ⟨q, next, hput⟩ := h
  exact ⟨q, _, by rw [run_bind, hput]; rfl⟩

theorem Silent.bind (h : Silent x) (f : α → Exchange ε β) : Silent (x >>= f) := by
  obtain ⟨e, he⟩ := h
  exact ⟨e, by rw [run_bind, he]; rfl⟩

theorem Speaks.explain {x : Exchange ClientError α} (h : Speaks x) (fault : ClientError → Fault) :
    Speaks (explain fault x) := by
  obtain ⟨q, next, hput⟩ := h
  refine ⟨q, fun reply => (next reply).bind (Dialogue.done ∘ Except.mapError fault), ?_⟩
  change Dialogue.bind x.run (Dialogue.done ∘ Except.mapError fault) = _
  rw [hput]
  rfl

theorem Silent.explain {x : Exchange ClientError α} (h : Silent x) (fault : ClientError → Fault) :
    Silent (explain fault x) := by
  obtain ⟨e, he⟩ := h
  refine ⟨fault e, ?_⟩
  change Dialogue.bind x.run (Dialogue.done ∘ Except.mapError fault) = _
  rw [he]
  rfl

theorem speaks_send {client : Client} {readOnly : Bool} {query : Option String} {q : Request}
    (h : client.request readOnly query = .ok q) : Speaks (client.send readOnly query) := by
  unfold Client.send
  rw [h]
  exact ⟨q, _, rfl⟩

theorem silent_send {client : Client} {readOnly : Bool} {query : Option String} {e : ClientError}
    (h : client.request readOnly query = .error e) : Silent (client.send readOnly query) := by
  unfold Client.send
  rw [h]
  exact ⟨e, rfl⟩

/-- The turns of an exchange of one query at most. -/
theorem Poses.converses {query : Option String} {hear : Option Reply → Except ε α} (h : Poses x query hear)
    {t : List ServerTurn} {a : Except ε α} (ht : Converses x.run t a) :
    (Silent x ∧ t = [] ∧ ∃ e, a = .error e) ∨
      ∃ q reply, query = some q.sql ∧ t = [⟨q, reply⟩] ∧ a = hear reply := by
  obtain ⟨e, he⟩ | ⟨q, hq, hput⟩ := h
  · rw [he] at ht
    obtain ⟨rfl, rfl⟩ := converses_done.1 ht
    exact .inl ⟨⟨e, he⟩, rfl, e, rfl⟩
  · rw [hput] at ht
    rcases ht with _ | ht
    obtain ⟨rfl, rfl⟩ := converses_done.1 ht
    exact .inr ⟨q, _, hq, rfl, rfl⟩

/-- An exchange that speaks takes any reply. -/
theorem Poses.converses_of_speaks {query : Option String} {hear : Option Reply → Except ε α} (h : Poses x query hear)
    (hx : Speaks x) (reply : Option Reply) : ∃ q, query = some q.sql ∧ Converses x.run [⟨q, reply⟩] (hear reply) := by
  obtain hsilent | ⟨q, hq, hput⟩ := h
  · exact absurd hx (Silent.not_speaks hsilent)
  · refine ⟨q, hq, ?_⟩
    rw [hput]
    exact .put (.done _)

/-- After its one query an exchange goes on with what it makes of the reply. -/
theorem converses_bind_of_put {hear : Option Reply → Except ε α} {q : Request} {f : α → Exchange ε β}
    (hput : x.run = .put q fun reply => .done (hear reply)) {t : List ServerTurn} {b : Except ε β}
    (h : Converses (x >>= f).run t b) :
    ∃ reply v, t = ⟨q, reply⟩ :: v ∧
      ((∃ e, hear reply = .error e ∧ v = [] ∧ b = .error e) ∨ ∃ a, hear reply = .ok a ∧ Converses (f a).run v b) := by
  obtain ⟨e, he, rfl⟩ | ⟨u, a, v, rfl, hu, hv⟩ := Dialogue.converses_exceptT_bind.1 h
  · rw [hput] at he
    rcases he with _ | he
    obtain ⟨rfl, hheard⟩ := converses_done.1 he
    exact ⟨_, [], rfl, .inl ⟨e, hheard.symm, rfl, rfl⟩⟩
  · rw [hput] at hu
    rcases hu with _ | hu
    obtain ⟨rfl, hheard⟩ := converses_done.1 hu
    exact ⟨_, v, rfl, .inr ⟨a, hheard.symm, hv⟩⟩

end

/-! ## Places -/

/-- The number of places of a template. -/
def places (template : String) : Nat := template.toList.count placeMark

theorem places_append (s t : String) : places (s ++ t) = places s + places t := by
  rw [places, String.toList_append, List.count_append]
  rfl

theorem places_quoteName (name : String) : places (quoteName name) = places name := by
  have hquote : places "`" = 0 := rfl
  rw [quoteName, places_append, places_append, hquote, Nat.zero_add, Nat.add_zero]

theorem places_name {name : String} (h : isName name = true) : places name = 0 := by
  rw [places, List.count_eq_zero]
  intro hmem
  rw [isName, Bool.and_eq_true, List.all_eq_true] at h
  exact absurd (h.2 _ hmem) (by decide)

/-- Without marks there is nothing to double. -/
theorem doubleMarks_of_places {s : String} (h : places s = 0) : doubleMarks s = s := by
  have hmark : ∀ c ∈ s.toList, (if c == placeMark then [c, c] else [c]) = [c] := by
    intro c hc
    rw [if_neg]
    rintro hmark
    exact List.count_eq_zero.1 h (beq_iff_eq.1 hmark ▸ hc)
  rw [doubleMarks, List.flatMap_congr hmark, List.flatMap_singleton', String.ofList_toList]

theorem fillChars_eq_some {t : List Char} (values : List (List Char)) (h : t.count placeMark ≤ values.length) :
    ∃ x, fillChars t values = some x := by
  induction t generalizing values with
  | nil => exact ⟨[], by rw [fillChars.eq_def]⟩
  | cons d t ih =>
    by_cases hd : d = placeMark
    · subst hd
      rw [List.count_cons_self] at h
      cases values with
      | nil => simp at h
      | cons v vs =>
        obtain ⟨x, hx⟩ := ih vs (Nat.le_of_succ_le_succ h)
        exact ⟨v ++ x, by rw [fillChars_cons_placeMark, hx]; rfl⟩
    · rw [List.count_cons_of_ne hd] at h
      obtain ⟨x, hx⟩ := ih values h
      exact ⟨d :: x, by rw [fillChars_cons_of_ne hd, hx]; rfl⟩

/-- A template without more places than values can be filled. -/
theorem fill_eq_some {template : String} (values : List String) (h : places template ≤ values.length) :
    ∃ x, fill template values = some x := by
  obtain ⟨x, hx⟩ := fillChars_eq_some (values.map (·.toList)) (by rwa [List.length_map])
  exact ⟨String.ofList x, by rw [fill, hx]; rfl⟩

/-! ## Taking a row back -/

/-- The names of the database and of the cluster can be written in queries. -/
structure HasNames (c : Connection) : Prop where
  database : isName c.database = true
  cluster : ∀ cluster ∈ c.cluster, isName cluster = true

section

variable {c : Connection} (h : HasNames c)

include h

theorem HasNames.places_tableName {table : String} (htable : places table = 0) :
    places (tableName c.database table) = 0 := by
  have hdot : places "." = 0 := rfl
  rw [tableName, places_append, places_append, places_quoteName, places_quoteName, places_name h.database, hdot, htable]

theorem HasNames.places_onCluster : places (onCluster c.cluster) = 0 := by
  cases hc : c.cluster with
  | none => rfl
  | some cluster =>
    have hclause : places " ON CLUSTER " = 0 := rfl
    rw [onCluster, places_append, hclause, places_quoteName, places_name (h.cluster cluster hc)]

theorem HasNames.places_removeHolder : places (Query.removeHolder c) = 1 := by
  unfold Query.removeHolder
  rw [places_append, places_append, places_append, h.places_tableName rfl, h.places_onCluster]
  rfl

end

/-- Whoever could ask for the holders can take a row back. -/
theorem speaks_removeHolder {c : Connection} (hnames : HasNames c) (hread : CanRead c) (holder : String) :
    Speaks (removeHolder c holder) := by
  have hsends : (databaseClient c).Sends := by
    cases hrequest : (databaseClient c).request true (fill (Query.holders c ++ " FORMAT RowBinary") []) with
    | ok q => exact sends_of_request hrequest
    | error e =>
      have hsilent : Silent (lockHolders c) := (((silent_send hrequest).bind _).bind _).explain _
      obtain ⟨q, -, hput⟩ := hread
      exact absurd ⟨q, _, hput⟩ hsilent.not_speaks
  obtain ⟨sql, hsql⟩ := fill_eq_some [textLiteral holder] (Nat.le_of_eq hnames.places_removeHolder)
  obtain ⟨q, hq⟩ := hsends.request false sql
  exact ((speaks_send (hsql ▸ hq)).bind _).explain _

end SchemaMigration.Clickhouse
