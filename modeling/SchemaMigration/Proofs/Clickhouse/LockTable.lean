import SchemaMigration.Proofs.Clickhouse.CutOff
import SchemaMigration.Proofs.Clickhouse.LockSystem

/-!
# The lock of a server that is asked one call after another

`TableQuery`        : what the calls of the lock ask of a server.
`ServesLock`        : a server that has the table and does what it is asked for.
`LockServer.Keeps`  : who has the lock, by the rows of the table.
`Ends`              : what an exchange ends in, and who has the lock afterwards.
`Proper.ends_tryLock`, `Proper.ends_removeHolder`, `Proper.ends_forceUnlock` : the calls of the lock.
`LockServer.answer` : a server that does what it is asked for.

As long as nobody else asks meanwhile there is one row at most, so neither the time of a row nor the order of the rows
plays a part.
-/

namespace SchemaMigration.Clickhouse

set_option autoImplicit false

open Http (Request Reply)

/-! ## Queries -/

/-- What the calls of the lock ask of a server: something about the holders, that there be none, or whether there is a
table of them. -/
inductive TableQuery
  | lock (x : LockQuery)
  | clear
  | count
  deriving DecidableEq, Repr

namespace TableQuery

/-- The query as it is written, if the names of the database can be written in it. -/
def sql? (c : Connection) : TableQuery → Option String
  | lock x => x.sql? c
  | clear => fill (Query.clearHolders c) []
  | count => fill (Query.tableCount ++ " FORMAT RowBinary") [textLiteral c.database, textLiteral lockTable]

/-- The characters that the query begins with, as many as tell it from the others. -/
def opening : TableQuery → String
  | lock .read => "SELECT h"
  | lock (.add _) => "INSERT I"
  | lock (.remove _) => "ALTER TA"
  | clear => "TRUNCATE"
  | count => "SELECT c"

end TableQuery

/-- A filled template begins as the template does, up to its first place. -/
theorem prefix_fillChars {p t x : List Char} {vs : List (List Char)} (hp : placeMark ∉ p)
    (h : fillChars (p ++ t) vs = some x) : p <+: x := by
  induction p generalizing x with
  | nil => exact List.nil_prefix
  | cons d p ih =>
    rw [List.mem_cons, not_or] at hp
    rw [List.cons_append, fillChars_cons_of_ne (Ne.symm hp.1), Option.map_eq_some_iff] at h
    obtain ⟨y, hy, rfl⟩ := h
    exact List.cons_prefix_cons.2 ⟨rfl, ih hp.2 hy⟩

theorem prefix_fill {p template x : String} {vs : List String} (htemplate : p.toList <+: template.toList)
    (hp : placeMark ∉ p.toList) (h : fill template vs = some x) : p.toList <+: x.toList := by
  obtain ⟨t, ht⟩ := htemplate
  rw [fill, ← ht, Option.map_eq_some_iff] at h
  obtain ⟨y, hy, rfl⟩ := h
  rw [String.toList_ofList]
  exact prefix_fillChars hp hy

theorem prefix_append {p a : String} (h : p.toList <+: a.toList) (b : String) : p.toList <+: (a ++ b).toList := by
  rw [String.toList_append]
  exact h.trans (List.prefix_append _ _)

section

variable {c : Connection} {x y : TableQuery} {sql : String}

theorem TableQuery.begins_opening (h : x.sql? c = some sql) : x.opening.toList <+: sql.toList := by
  obtain (_ | holder | holder) | _ | _ := x
  · exact prefix_fill (prefix_append (prefix_append (prefix_append (by decide) _) _) _) (by decide) h
  · exact prefix_fill (p := "INSERT I") (prefix_append (prefix_append (by decide) _) _) (by decide) h
  · exact prefix_fill (p := "ALTER TA") (prefix_append (prefix_append (prefix_append (by decide) _) _) _) (by decide) h
  · exact prefix_fill (prefix_append (prefix_append (by decide) _) _) (by decide) h
  · exact prefix_fill (prefix_append (by decide) _) (by decide) h

theorem TableQuery.length_opening (x : TableQuery) : x.opening.toList.length = 8 := by
  obtain (_ | _ | _) | _ | _ := x <;> simp [opening]

/-- A text is at most one of the queries. -/
theorem TableQuery.sql?_unique (hx : x.sql? c = some sql) (hy : y.sql? c = some sql) : x = y := by
  have hopening : x.opening = y.opening := by
    have hsame := List.prefix_of_prefix_length_le (begins_opening hx) (begins_opening hy)
      (by rw [length_opening, length_opening])
    exact String.toList_injective (hsame.eq_of_length (by rw [length_opening, length_opening]))
  cases x with
  | lock x =>
    cases y with
    | lock y => rw [sql?_injective hx hy]
    | clear | count => obtain _ | _ | _ := x <;> exact absurd hopening (by simp [opening])
  | clear =>
    cases y with
    | lock y => obtain _ | _ | _ := y <;> exact absurd hopening (by simp [opening])
    | clear => rfl
    | count => exact absurd hopening (by decide)
  | count =>
    cases y with
    | lock y => obtain _ | _ | _ := y <;> exact absurd hopening (by simp [opening])
    | clear => exact absurd hopening (by decide)
    | count => rfl

end

/-! ## Servers -/

namespace LockServer

/-- The server after a query, and the bytes of the rows that it replies. -/
def ask (s : LockServer) : TableQuery → LockServer × List UInt8
  | .lock x => s.perform x
  | .clear => ({ s with rows := [] }, [])
  | .count => (s, wordBytes 1)

/-- The rows of the table tell who has the lock. -/
def Keeps (s : LockServer) (lock : Option String) : Prop := s.rows.map (·.holder) = lock.toList

/-- With one row at most, the holder is the only one that is named. -/
theorem keeps_iff {s : LockServer} {lock : Option String} : s.Keeps lock ↔ s.holders = lock.toList := by
  have hshort : s.rows.length ≤ 1 → s.holders = s.rows.map (·.holder) := by
    intro hlength
    rw [holders]
    obtain hrows | ⟨row, hrows⟩ : s.rows = [] ∨ ∃ row, s.rows = [row] := by
      rwa [Nat.le_one_iff_eq_zero_or_eq_one, List.length_eq_zero_iff, List.length_eq_one_iff] at hlength
    · rw [hrows]
      rfl
    · rw [hrows]
      rfl
  have hlock : lock.toList.length ≤ 1 := by cases lock <;> simp
  rw [Keeps]
  constructor
  · intro h
    rw [hshort (by rwa [← h, List.length_map] at hlock), h]
  · intro h
    have hlength : s.holders.length = s.rows.length := by rw [holders, List.length_map, List.length_insertionSort]
    rw [← hshort (by rwa [← h, hlength] at hlock), h]

end LockServer

/-- A server that has the table and does what it is asked for. Time may pass meanwhile. -/
def ServesLock (c : Connection) (answer : Request → LockServer → Option Reply × LockServer) : Prop :=
  ∀ q s (x : TableQuery), x.sql? c = some q.sql →
    (answer q s).1 = goodReply (s.ask x).2 ∧ (answer q s).2.rows = (s.ask x).1.rows

/-- A reply that names the holder can be read. -/
def Legible (holder : String) : Prop := ∀ f, hearHolders (goodReply (textBytes holder)) ≠ .error f

theorem hearHolders_of_legible {lock : Option String} (h : ∀ holder ∈ lock, Legible holder) :
    hearHolders (goodReply (lock.toList.flatMap textBytes)) = .ok lock.toList := by
  cases lock with
  | none => exact hearHolders_nil
  | some holder =>
    refine (hearHolders_names [holder]).resolve_right ?_
    rintro ⟨f, hf⟩
    rw [List.flatMap_singleton] at hf
    exact h holder rfl f hf

/-- A name can be read unless it is very long or its row ends as a failure ends that the server writes after rows. -/
theorem legible_of_size {holder : String} (hsize : holder.utf8ByteSize < 2 ^ 63)
    (hend : (bytesOf "))\n").isSuffixOf (textBytes holder) = false) : Legible holder := by
  have hbody : Body.ofBytes (textBytes holder) = ⟨textBytes holder, none⟩ := by
    rw [Body.ofBytes, hend]
    rfl
  have hrows : rows text (textBytes holder) = ([holder], none) := by
    obtain h | ⟨⟨long, hmem, hlong⟩, -⟩ := rows_texts [holder]
    · rwa [List.flatMap_singleton] at h
    · obtain rfl := List.mem_singleton.1 hmem
      omega
  have hhear : hearHolders (goodReply (textBytes holder)) =
      (texts (.ofBytes (textBytes holder))).mapError (inDatabase "failed to read lock holder: ") := rfl
  intro f hf
  rw [hhear, hbody, texts, Client.readBody, hrows] at hf
  cases hf

/-! ## Exchanges with a server -/

section

variable {c : Connection} {answer : Request → LockServer → Option Reply × LockServer} {s : LockServer}
  {lock lock' : Option String} {α β : Type} {a : α} {b : β}

/-- What an exchange with the server ends in, and who has the lock afterwards. -/
structure Ends (answer : Request → LockServer → Option Reply × LockServer) (s : LockServer) (x : Exchange Fault α)
    (a : α) (lock : Option String) : Prop where
  value : (x.run.play answer s).1 = .ok a
  keeps : (x.run.play answer s).2.Keeps lock

theorem Ends.pure (hs : s.Keeps lock) (a : α) : Ends answer s (pure a) a lock := ⟨rfl, hs⟩

theorem Ends.bind {x : Exchange Fault α} {f : α → Exchange Fault β} (h : Ends answer s x a lock)
    (hf : ∀ t : LockServer, t.Keeps lock → Ends answer t (f a) b lock') : Ends answer s (x >>= f) b lock' := by
  have hrest := hf _ h.keeps
  have hplay : (x >>= f).run.play answer s = (f a).run.play answer (x.run.play answer s).2 := by
    rw [run_bind, Dialogue.play_bind, h.value]
    rfl
  exact ⟨by rw [hplay, hrest.value], by rw [hplay]; exact hrest.keeps⟩

/-- An exchange of one query ends in what it makes of the server's reply. -/
theorem ServesLock.ends_of_poses (hserves : ServesLock c answer) (query : TableQuery) {x : Exchange Fault α}
    {hear : Option Reply → Except Fault α} (h : Poses x (query.sql? c) hear) (hx : Speaks x)
    (hheard : hear (goodReply (s.ask query).2) = .ok a) (hkeeps : (s.ask query).1.Keeps lock) :
    Ends answer s x a lock := by
  obtain hsilent | ⟨q, hq, hput⟩ := h
  · exact absurd hx (Silent.not_speaks hsilent)
  obtain ⟨hreply, hrows⟩ := hserves q s query hq
  have hplay : x.run.play answer s = (hear (answer q s).1, (answer q s).2) := by
    rw [hput]
    rfl
  refine ⟨by rw [hplay, hreply, hheard], ?_⟩
  rw [hplay, LockServer.Keeps, hrows]
  exact hkeeps

/-! ## Single queries -/

variable (h : Proper c) (hserves : ServesLock c answer)

include h hserves

theorem Proper.ends_lockHolders (hs : s.Keeps lock) (hlegible : ∀ holder ∈ lock, Legible holder) :
    Ends answer s (lockHolders c) lock.toList lock := by
  obtain ⟨q, -, hput⟩ := h.canRead
  refine hserves.ends_of_poses (.lock .read) (poses_lockHolders c) ⟨q, _, hput⟩ ?_ hs
  change hearHolders (goodReply (s.holders.flatMap textBytes)) = _
  rw [LockServer.keeps_iff.1 hs, hearHolders_of_legible hlegible]

/-- The lock is given back, if it is the holder who has it. -/
theorem Proper.ends_removeHolder (hs : s.Keeps lock) (holder : String) :
    Ends answer s (removeHolder c holder) () (if lock = some holder then none else lock) := by
  refine hserves.ends_of_poses (.lock (.remove holder)) (poses_removeHolder c holder)
    (h.speaks_execute (h.names.places_extended (.removeHolder holder)) _) (hearDone_good _) ?_
  change (s.rows.filter (·.holder != holder)).map (·.holder) = _
  rw [LockServer.Keeps] at hs
  have hfilter : (s.rows.filter (·.holder != holder)).map (·.holder) = lock.toList.filter (· != holder) := by
    rw [← hs, List.filter_map]
    rfl
  rw [hfilter]
  cases lock with
  | none => rfl
  | some other =>
    by_cases hother : other = holder
    · simp [hother]
    · simp [hother]

theorem Proper.ends_addHolder (hs : s.Keeps none) (holder : String) :
    Ends answer s (explain (inDatabase "failed to acquire lock: ")
      ((databaseClient c).execute (Query.addHolder c) [textLiteral holder])) () (some holder) := by
  refine hserves.ends_of_poses (.lock (.add holder)) (poses_addHolder c holder)
    (h.speaks_execute (h.names.places_extended (.addHolder holder)) _) (hearDone_good _) ?_
  change (s.rows ++ [(⟨s.clock, holder⟩ : LockRow)]).map (·.holder) = _
  rw [LockServer.Keeps] at hs
  rw [List.map_append, hs]
  rfl

theorem Proper.ends_clearHolders : Ends answer s (explain (inDatabase "failed to clear lock: ")
    ((databaseClient c).execute (Query.clearHolders c) [])) () none :=
  hserves.ends_of_poses .clear ((poses_execute _ _ _).explain _)
    (h.speaks_execute (h.names.places_extended .clearHolders) _) (hearDone_good "failed to clear lock: ") rfl

theorem Proper.ends_tableExists (hs : s.Keeps lock) : Ends answer s (tableExists c lockTable) true lock := by
  obtain ⟨sql, hsql⟩ := fill_eq_some [textLiteral c.database, textLiteral lockTable] (Nat.le_of_eq places_tableCount)
  have hspeaks : Speaks ((databaseClient c).fetchOne word Query.tableCount
      [textLiteral c.database, textLiteral lockTable]) := (speaks_fetch word h.databaseClient_sends hsql).bind _
  have hcount := hserves.ends_of_poses .count (s := s) (a := 1)
    ((poses_fetchOne _ word _ _).explain (inDatabase "failed to inspect schema: ")) (hspeaks.explain _)
    (congrArg _ firstRow_one) hs
  exact hcount.bind fun t ht => .pure ht true

/-! ## The calls -/

/-- A free lock is taken; whoever has it already is told so again. -/
theorem Proper.ends_tryLock (hs : s.Keeps lock) (hlegible : ∀ holder ∈ lock, Legible holder) {holder : String}
    (hholder : Legible holder) :
    Ends answer s (Clickhouse.tryLock c holder) (match lock with
      | none => LockOutcome.acquired
      | some other => if other = holder then .acquired else .heldBy other) (some (lock.getD holder)) := by
  rw [tryLock_eq]
  refine (h.ends_lockHolders hserves hs hlegible).bind fun t ht => ?_
  cases lock with
  | some other =>
    have hconsider : consider c holder [other] = pure (if other = holder then .acquired else .heldBy other) := by
      by_cases hother : other = holder
      · simp [consider, hother]
      · simp [consider, hother]
    exact hconsider ▸ .pure ht _
  | none =>
    refine (h.ends_addHolder hserves ht holder).bind fun u hu => ?_
    refine (h.ends_lockHolders hserves hu (by simpa using hholder)).bind fun v hv => ?_
    have hjudge : judge c holder [holder] = pure .acquired := by simp [judge]
    exact hjudge ▸ .pure hv _

omit h hserves in
theorem forceUnlock_eq (c : Connection) : forceUnlock c = tableExists c lockTable >>= fun there =>
    if there then lockHolders c >>= fun holders =>
      if holders.isEmpty then pure false
      else explain (inDatabase "failed to clear lock: ") ((databaseClient c).execute (Query.clearHolders c) []) >>=
        fun _ => pure true
    else pure false := rfl

theorem Proper.ends_forceUnlock (hs : s.Keeps lock) (hlegible : ∀ holder ∈ lock, Legible holder) :
    Ends answer s (forceUnlock c) lock.isSome none := by
  rw [forceUnlock_eq]
  refine (h.ends_tableExists hserves hs).bind fun t ht => ?_
  refine (h.ends_lockHolders hserves ht hlegible).bind fun u hu => ?_
  cases lock with
  | none => exact .pure hu false
  | some other => exact (h.ends_clearHolders hserves).bind fun v hv => .pure hv true

end

/-! ## A server that does what it is asked for -/

open Classical in
/-- A server that does what it is asked for, and refuses all else. -/
noncomputable def LockServer.answer (c : Connection) (q : Request) (s : LockServer) : Option Reply × LockServer :=
  if h : ∃ x : TableQuery, x.sql? c = some q.sql then (goodReply (s.ask h.choose).2, (s.ask h.choose).1)
  else (some ⟨400, []⟩, s)

theorem servesLock_answer (c : Connection) : ServesLock c (LockServer.answer c) := by
  intro q s x hx
  have hsome : ∃ y : TableQuery, y.sql? c = some q.sql := ⟨x, hx⟩
  have hchosen : hsome.choose = x := TableQuery.sql?_unique hsome.choose_spec hx
  rw [LockServer.answer, dif_pos hsome, hchosen]
  exact ⟨rfl, rfl⟩

end SchemaMigration.Clickhouse
