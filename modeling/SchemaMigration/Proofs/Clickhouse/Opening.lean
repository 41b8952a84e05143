import SchemaMigration.Proofs.Clickhouse.Sending
import SchemaMigration.Proofs.Run.Bracket

/-!
# Opening a database on a server

`BeginWith`           : every request of the turns begins with one of the characters.
`beginWith_talks`     : how the requests begin that open a database; none of them adds to the table of the lock.
`hasNames_of_connect` : a session is opened only under names that can be written in queries.
-/

namespace SchemaMigration.Clickhouse

set_option autoImplicit false

open Dialogue (Converses converses_done converses_exceptT_bind)
open Http (Request Reply)
open Run (Talks)

/-! ## First characters -/

/-- Every request of the turns begins with one of the characters. -/
def BeginWith (ds : List Char) (t : List ServerTurn) : Prop := ∀ x ∈ t, ∃ d ∈ ds, x.question.sql.toList.head? = some d

section

variable {ds : List Char} {t u : List ServerTurn}

theorem BeginWith.nil : BeginWith ds [] := by simp [BeginWith]

theorem BeginWith.append (ht : BeginWith ds t) (hu : BeginWith ds u) : BeginWith ds (t ++ u) := by
  intro x hx
  obtain hx | hx := List.mem_append.1 hx
  · exact ht x hx
  · exact hu x hx

theorem Poses.beginWith {ε α : Type} {x : Exchange ε α} {template : String} {values : List String}
    {hear : Option Reply → Except ε α} {a : Except ε α} {d : Char} (h : Poses x (fill template values) hear)
    (htemplate : template.toList.head? = some d) (hd : d ≠ placeMark) (hds : d ∈ ds) (ht : Converses x.run t a) :
    BeginWith ds t := by
  obtain ⟨-, rfl, -⟩ | ⟨q, reply, hq, rfl, -⟩ := h.converses ht
  · exact .nil
  · intro y hy
    obtain rfl := List.mem_singleton.1 hy
    exact ⟨d, hds, head?_fill htemplate hd hq⟩

end

theorem head?_doubleMarks {s : String} {d : Char} (h : s.toList.head? = some d) (hd : d ≠ placeMark) :
    (doubleMarks s).toList.head? = some d := by
  obtain ⟨r, hr⟩ := List.head?_eq_some_iff.1 h
  simp [doubleMarks, hr, hd]

/-- What is laid out begins as its first line does. -/
theorem head?_layOut {line : String} {lines : List (Nat × String)} {d : Char} (h : line.toList.head? = some d) :
    (layOut ((0, line) :: lines)).toList.head? = some d := by
  obtain ⟨r, hr⟩ := List.head?_eq_some_iff.1 h
  cases lines <;> simp [layOut, String.toList_intercalate, List.intercalate, hr]

/-! ## The exchanges -/

theorem checkName_eq_ok {kind name : String} : checkName kind name = .ok () ↔ isName name = true := by
  unfold checkName
  split <;> simp_all

section

variable {c : Connection} {t : List ServerTurn}

theorem converses_ofExcept {α : Type} {r a : Except Fault α} : Converses (ofExcept r).run t a ↔ t = [] ∧ a = r :=
  converses_done

/-- What a client makes of the rows of a query for one. -/
def firstRow {α : Type} : List α × Option ClientError → Except ClientError α
  | (x :: _, _) => .ok x
  | ([], some e) => .error e
  | ([], none) => .error .noRows

theorem poses_fetchOne {α : Type} (client : Client) (row : Field α) (template : String) (values : List String) :
    Poses (client.fetchOne row template values) (fill (template ++ " FORMAT RowBinary") values)
      fun reply => (readReply reply >>= fun body => .ok (Client.readBody row body)) >>= firstRow := by
  have hfetch : Poses (client.fetch row template values) (fill (template ++ " FORMAT RowBinary") values)
      fun reply => readReply reply >>= fun body => .ok (Client.readBody row body) :=
    (poses_send client true _).bind fun body => rfl
  refine hfetch.bind fun rows => ?_
  obtain ⟨_ | ⟨x, xs⟩, e | e⟩ := rows <;> rfl

/-- The question for the database is sent under a proper name only. -/
theorem converses_databaseExists {a : Except Fault Bool} (h : Converses (databaseExists c).run t a) :
    BeginWith ['S', 'C'] t ∧ ∀ there, a = .ok there → isName c.database = true := by
  unfold databaseExists at h
  obtain ⟨e, he, rfl⟩ | ⟨u, _, v, rfl, hu, hrest⟩ := converses_exceptT_bind.1 h
  · obtain ⟨rfl, -⟩ := converses_ofExcept.1 he
    exact ⟨.nil, by simp⟩
  obtain ⟨rfl, hname⟩ := converses_ofExcept.1 hu
  refine ⟨?_, fun _ _ => checkName_eq_ok.1 hname.symm⟩
  have hposes := (poses_fetchOne (serverClient c) word Query.databaseCount [textLiteral c.database]).explain fun e =>
    .connection ("failed to reach ClickHouse at " ++ c.serverAddress ++ ": " ++ e.message)
  have hasks {v : List ServerTurn} {a : Except Fault Nat} (hv : Converses (explain _ _).run v a) :
      BeginWith ['S', 'C'] v :=
    hposes.beginWith (d := 'S') (head?_append rfl _) (by decide) (by simp) hv
  obtain ⟨e, he, -⟩ | ⟨u, n, v, rfl, hu, hdone⟩ := converses_exceptT_bind.1 hrest
  · exact hasks he
  · obtain ⟨rfl, -⟩ := converses_done.1 hdone
    rw [List.append_nil]
    exact hasks hu

theorem connect_eq (c : Connection) : connect c = databaseExists c >>= fun there =>
    (if there then pure () else throw (.databaseMissing c.database)) >>= fun _ =>
      match c.cluster with
      | some cluster => ofExcept (checkName "cluster" cluster)
      | none => pure () := by
  unfold connect
  congr 1
  funext there
  cases there <;> cases c.cluster <;> rfl

/-- A session is opened only under names that can be written in queries. -/
theorem converses_connect {a : Except Fault Unit} (h : Converses (connect c).run t a) :
    BeginWith ['S', 'C'] t ∧ (a = .ok () → HasNames c) := by
  rw [connect_eq] at h
  obtain ⟨e, he, rfl⟩ | ⟨u, there, v, rfl, hu, hrest⟩ := converses_exceptT_bind.1 h
  · exact ⟨(converses_databaseExists he).1, by simp⟩
  obtain ⟨hbegin, hdatabase⟩ := converses_databaseExists hu
  cases there with
  | false =>
    obtain ⟨rfl, rfl⟩ : v = [] ∧ a = .error (.databaseMissing c.database) := converses_done.1 hrest
    rw [List.append_nil]
    exact ⟨hbegin, by simp⟩
  | true =>
    have hcluster : v = [] ∧ a = match c.cluster with
        | some cluster => checkName "cluster" cluster
        | none => .ok () := by
      cases hc : c.cluster with
      | none =>
        rw [hc] at hrest
        exact converses_done.1 hrest
      | some cluster =>
        rw [hc] at hrest
        exact converses_done.1 hrest
    obtain ⟨rfl, rfl⟩ := hcluster
    rw [List.append_nil]
    refine ⟨hbegin, fun hok => ⟨hdatabase true rfl, fun cluster hmem => ?_⟩⟩
    rw [Option.mem_def.1 hmem] at hok
    exact checkName_eq_ok.1 hok

theorem converses_createDatabase {a : Except Fault Unit} (h : Converses (createDatabase c).run t a) :
    BeginWith ['S', 'C'] t := by
  unfold createDatabase at h
  obtain ⟨e, he, -⟩ | ⟨u, _, v, rfl, hu, hrest⟩ := converses_exceptT_bind.1 h
  · obtain ⟨rfl, -⟩ := converses_ofExcept.1 he
    exact .nil
  · obtain ⟨rfl, -⟩ := converses_ofExcept.1 hu
    exact ((poses_execute _ _ _).explain _).beginWith (d := 'C')
      (head?_doubleMarks (head?_append (head?_append rfl _) _) (by decide)) (by decide) (by simp) hrest

theorem head?_createTable (c : Connection) (table : String) (columns : List String) (order : String) :
    (doubleMarks (Query.createTable c table columns order)).toList.head? = some 'C' :=
  head?_doubleMarks (head?_layOut (head?_append (head?_append (head?_append rfl _) _) _)) (by decide)

theorem converses_ensureTables {a : Except Fault Unit} (h : Converses (ensureTables c).run t a) :
    BeginWith ['S', 'C'] t := by
  have hmake {table : String} {columns : List String} {order : String} {t : List ServerTurn} {a : Except Fault Unit}
      (ht : Converses (explain (inDatabase "failed to create bookkeeping tables: ") ((databaseClient c).execute
        (doubleMarks (Query.createTable c table columns order)) [])).run t a) : BeginWith ['S', 'C'] t :=
    ((poses_execute _ _ _).explain _).beginWith (head?_createTable c table columns order) (by decide) (by simp) ht
  obtain ⟨e, he, -⟩ | ⟨u, _, v, rfl, hu, hrest⟩ := converses_exceptT_bind.1 h
  · exact hmake he
  obtain ⟨e, he, -⟩ | ⟨v, _, w, rfl, hv, hdone⟩ := converses_exceptT_bind.1 hrest
  · exact (hmake hu).append (hmake he)
  · obtain ⟨rfl, -⟩ := converses_done.1 hdone
    rw [List.append_nil]
    exact (hmake hu).append (hmake hv)

end

/-! ## The opening of a run -/

section

variable {c : Connection} {now : Time.Instant} {xs : List Answered} {t : List ServerTurn}

theorem beginWith_engine {call : Call} (hcall : call.isOpening = true) {a : Except Fault call.Answer}
    (h : Converses (engine c now call) t a) : BeginWith ['S', 'C'] t := by
  cases call with
  | databaseExists => exact (converses_databaseExists h).1
  | createDatabase => exact converses_createDatabase h
  | connect => exact (converses_connect h).1
  | ensureBookkeeping => exact converses_ensureTables h
  | _ => simp [Call.isOpening] at hcall

/-- The requests that open a database select or create. -/
theorem beginWith_talks (hxs : ∀ x ∈ xs, x.call.isOpening = true) (h : Talks (engine c now) xs t) :
    BeginWith ['S', 'C'] t := by
  induction h with
  | nil => exact .nil
  | cons hx _ ih =>
    rw [List.forall_mem_cons] at hxs
    exact (beginWith_engine hxs.1 hx).append (ih hxs.2)

/-- The names of an opened session can be written in queries. -/
theorem hasNames_of_connect (hxs : ⟨.connect, .ok ()⟩ ∈ xs) (h : Talks (engine c now) xs t) : HasNames c := by
  induction h with
  | nil => simp at hxs
  | cons hx _ ih =>
    obtain rfl | hxs := List.mem_cons.1 hxs
    · exact (converses_connect hx).2 rfl
    · exact ih hxs

end

end SchemaMigration.Clickhouse
