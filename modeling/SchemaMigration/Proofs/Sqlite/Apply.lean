import SchemaMigration.Proofs.Sqlite.Lawful

/-!
# Migrations as transactions

`AllOrNothing` : a migration that fails changes nothing, and one that succeeds has all its effects and one record.
`Fails`        : the places where a migration can fail, each with the transaction that it leaves.
`apply_all_or_nothing_iff` : when migrations are all or nothing, in any dialect of SQL.
`not_allOrNothing_commit`  : a migration that commits by itself fails and is recorded all the same.
-/

namespace SchemaMigration.Sqlite

set_option autoImplicit false

open Sql (Database Transaction Refusal Apart Spares)
open Time (Instant)

variable {σ : Type} {e : Executor σ}

/-! ## Vocabulary -/

/-- A migration that fails leaves the state as it was. One that succeeds leaves what its statements make of it, all of
them run in order, and what the insertion of its record makes of that: one more record, and nothing else unless triggers
watch the table of records. -/
def AllOrNothing (e : Executor σ) (m : Migration) (statements : List String) (user : String) (now : Instant) (x : σ) :
    Prop :=
  match e.apply m statements user now x with
  | (.error _, after) => after = x
  | (.ok r, after) => r = m.record user now ∧
      ∃ s t, e.runScripts statements (.start x) = (s, .ok ()) ∧ e.addRecord r s = (t, .ok ()) ∧ after = t.db ∧
        ((e.database s.db).watched recordTable.name .insertion = false →
          GainsRow (recordRow r) (e.database s.db) (e.database after))

/-- The places where a migration can fail, each with the transaction that it leaves: one of its statements is refused, its
record is refused, or the end of its transaction is. -/
inductive Fails (e : Executor σ) (r : Record) (statements : List String) (x : σ) : Transaction σ → Prop
  | statement {s : Transaction σ} {reason : String} (h : e.runScripts statements (.start x) = (s, .error reason)) :
      Fails e r statements x s
  | record {s t : Transaction σ} {refusal : Refusal} (h : e.runScripts statements (.start x) = (s, .ok ()))
      (hr : e.addRecord r s = (t, .error refusal)) : Fails e r statements x t
  | commit {s t : Transaction σ} {refusal : Refusal} (h : e.runScripts statements (.start x) = (s, .ok ()))
      (hr : e.addRecord r s = (t, .ok ())) (hc : t.commit? = .error refusal) : Fails e r statements x t

/-! ## Scripts -/

theorem runScripts_cons_ok {script : String} {statements : List String} {s t : Transaction σ}
    (h : e.run script s = (t, .ok ())) : e.runScripts (script :: statements) s = e.runScripts statements t := by
  rw [Executor.runScripts, h]

theorem runScripts_cons_error {script reason : String} {statements : List String} {s t : Transaction σ}
    (h : e.run script s = (t, .error reason)) : e.runScripts (script :: statements) s = (t, .error reason) := by
  rw [Executor.runScripts, h]

/-- A transaction stays open through scripts that keep it open, and nobody else sees anything of them. -/
theorem keepsOpen_runScripts {statements : List String} (hstatements : ∀ script ∈ statements, e.KeepsOpen script)
    {s : Transaction σ} {x : σ} (hs : s.saved = some x) :
    (e.runScripts statements s).1.abandon = x ∧
      ∀ t, e.runScripts statements s = (t, .ok ()) → t.saved = some x := by
  induction statements generalizing s with
  | nil =>
    refine ⟨Transaction.abandon_of_saved hs, fun t ht => ?_⟩
    obtain ⟨rfl, -⟩ := Prod.mk.inj ht
    exact hs
  | cons script statements ih =>
    have hscript := hstatements script List.mem_cons_self
    cases hrun : e.run script s with
    | mk t answer =>
      cases answer with
      | ok u =>
        rw [runScripts_cons_ok hrun]
        exact ih (fun y hy => hstatements y (List.mem_cons_of_mem _ hy)) (hscript.saved s t x hs hrun)
      | error reason =>
        have habandon := hscript.abandon s x hs
        rw [hrun] at habandon
        rw [runScripts_cons_error hrun]
        exact ⟨habandon, fun _ h => by cases (Prod.mk.inj h).2⟩

/-- Scripts that spare a table one after another spare it together. -/
theorem spares_runScripts {name : String} {statements : List String} {s t : Transaction σ} {x : σ}
    (hopen : ∀ script ∈ statements, e.KeepsOpen script) (hleaves : ∀ script ∈ statements, e.Leaves name script)
    (hs : s.saved = some x) (h : Apart name (e.database s.db)) (hrun : e.runScripts statements s = (t, .ok ())) :
    Spares name (e.database s.db) (e.database t.db) := by
  induction statements generalizing s with
  | nil =>
    obtain ⟨rfl, -⟩ := Prod.mk.inj hrun
    exact h.spares
  | cons script statements ih =>
    cases hfirst : e.run script s with
    | mk u answer =>
      cases answer with
      | error reason =>
        rw [runScripts_cons_error hfirst] at hrun
        cases (Prod.mk.inj hrun).2
      | ok _ =>
        rw [runScripts_cons_ok hfirst] at hrun
        have hspares := hleaves script List.mem_cons_self s u (by simp [hs]) h hfirst
        have hsaved := (hopen script List.mem_cons_self).saved s u x hs hfirst
        exact hspares.trans (ih (fun y hy => hopen y (List.mem_cons_of_mem _ hy))
          (fun y hy => hleaves y (List.mem_cons_of_mem _ hy)) hsaved hspares.apart hrun)

/-- Where all scripts keep the transaction open, others see no change at the place where a migration fails. -/
theorem Fails.abandon (he : e.Lawful) {r : Record} {statements : List String} {x : σ} {t : Transaction σ}
    (hstatements : ∀ script ∈ statements, e.KeepsOpen script) (h : Fails e r statements x t) : t.abandon = x := by
  obtain ⟨habandon, hsaved⟩ := keepsOpen_runScripts hstatements (s := .start x) rfl
  cases h with
  | statement hrun =>
    rw [hrun] at habandon
    exact habandon
  | record hrun hrecord | commit hrun hrecord _ =>
    have hseen := he.abandon_addRecord r _ x (hsaved _ hrun)
    rw [hrecord] at hseen
    exact hseen

/-! ## The end of a migration -/

theorem apply_of_fails {m : Migration} {statements : List String} {user : String} {now : Instant} {x : σ}
    {t : Transaction σ} (h : Fails e (m.record user now) statements x t) :
    ∃ f, e.apply m statements user now x = (.error f, t.abandon) := by
  unfold Executor.apply
  cases h with
  | statement hrun =>
    rw [hrun]
    exact ⟨_, rfl⟩
  | record hrun hrecord =>
    simp only [hrun, Executor.finish, hrecord]
    exact ⟨_, rfl⟩
  | commit hrun hrecord hcommit =>
    simp only [hrun, Executor.finish, hrecord, hcommit]
    exact ⟨_, rfl⟩

/-- A migration of which nothing has failed: all its statements have run, its record was added, and no reference that is
checked at the end of the transaction counts as broken. -/
structure Applied (e : Executor σ) (r : Record) (statements : List String) (x : σ) (s t : Transaction σ) : Prop where
  run : e.runScripts statements (.start x) = (s, .ok ())
  record : e.addRecord r s = (t, .ok ())
  kept : t.deferred ≤ 0

/-- A migration has run all its statements and added its record, or it fails at one of its places. -/
theorem apply_cases (e : Executor σ) (m : Migration) (statements : List String) (user : String) (now : Instant) (x : σ) :
    (∃ s t, Applied e (m.record user now) statements x s t ∧
      e.apply m statements user now x = (.ok (m.record user now), t.db)) ∨
    ∃ t, Fails e (m.record user now) statements x t := by
  cases hrun : e.runScripts statements (.start x) with
  | mk s ran =>
    cases ran with
    | error reason => exact .inr ⟨s, .statement hrun⟩
    | ok u =>
      cases hrecord : e.addRecord (m.record user now) s with
      | mk t added =>
        cases added with
        | error refusal => exact .inr ⟨t, .record hrun hrecord⟩
        | ok u =>
          cases hcommit : t.commit? with
          | error refusal => exact .inr ⟨t, .commit hrun hrecord hcommit⟩
          | ok t' =>
            obtain ⟨rfl, hkept⟩ := Transaction.commit?_eq_ok hcommit
            refine .inl ⟨s, t, ⟨hrun, hrecord, hkept⟩, ?_⟩
            simp only [Executor.apply, hrun, Executor.finish, hrecord, hcommit]
            rfl

/-- A migration is all or nothing exactly if others see no change at the place where it fails. This is so whenever all its
scripts keep the transaction open. -/
theorem apply_all_or_nothing_iff (he : e.Lawful) (m : Migration) (statements : List String) (user : String)
    (now : Instant) (x : σ) :
    (AllOrNothing e m statements user now x ↔ ∀ t, Fails e (m.record user now) statements x t → t.abandon = x) ∧
      ((∀ script ∈ statements, e.KeepsOpen script) → AllOrNothing e m statements user now x) := by
  have hiff : AllOrNothing e m statements user now x ↔
      ∀ t, Fails e (m.record user now) statements x t → t.abandon = x := by
    constructor
    · intro h t ht
      obtain ⟨f, happly⟩ := apply_of_fails ht
      rw [AllOrNothing, happly] at h
      exact h
    · intro h
      obtain ⟨s, t, hdone, happly⟩ | ⟨t, ht⟩ := apply_cases e m statements user now x
      · rw [AllOrNothing, happly]
        exact ⟨rfl, s, t, hdone.run, hdone.record, rfl, he.addRecord_grows _ s t hdone.record⟩
      · obtain ⟨f, happly⟩ := apply_of_fails ht
        rw [AllOrNothing, happly]
        exact h t ht
  exact ⟨hiff, fun hstatements => hiff.2 fun t ht => ht.abandon he hstatements⟩

/-- The two tables, and a trigger that writes down that a record was added. -/
def watchedDatabase : Database where
  tables := [recordTable, lockTable, ⟨"log", [{ name := "v" }], []⟩]
  indexes := []
  triggers := [⟨"audit", recordTable.name, false, .insertion,
    [.insert ⟨⟨"log", "log", 0⟩, none, [[.literal (.integer 1)]]⟩]⟩]

/-- A migration in a database in which a trigger fires for its record. -/
theorem apply_all_or_nothing_iff_watched :
    Executor.Lawful .plain ∧ (∀ script ∈ ["CREATE TABLE a (x)"], Executor.KeepsOpen .plain script) ∧
      AllOrNothing .plain ⟨1, "m", "1_m.sql", ""⟩ ["CREATE TABLE a (x)"] "tester" ⟨0, 0⟩ watchedDatabase := by
  have hsingle : Sql.beginning "CREATE TABLE a (x)".toList = .whole (.createTable false ⟨"a", "a", 13⟩ [{ name := "x" }]) [] := by
    decide +kernel
  have hopen : ∀ script ∈ ["CREATE TABLE a (x)"], Executor.KeepsOpen .plain script := by
    rw [List.forall_mem_singleton]
    refine Executor.keepsOpen_plain fun x hx => ?_
    rw [hx.eq_of_single hsingle]
    rfl
  have hiff := apply_all_or_nothing_iff Executor.lawful_plain ⟨1, "m", "1_m.sql", ""⟩ ["CREATE TABLE a (x)"] "tester" ⟨0, 0⟩
    watchedDatabase
  exact ⟨Executor.lawful_plain, hopen, hiff.2 hopen⟩

/-- A migration that commits by itself fails at its end, and its table and its record stay. -/
theorem not_allOrNothing_commit :
    ¬AllOrNothing .plain ⟨1, "m", "1_m.sql", ""⟩ ["CREATE TABLE a (x)", "COMMIT"] "tester" ⟨0, 0⟩
      (ensureTables .empty) := by
  intro h
  have hfails : (Executor.plain.apply ⟨1, "m", "1_m.sql", ""⟩ ["CREATE TABLE a (x)", "COMMIT"] "tester" ⟨0, 0⟩
      (ensureTables .empty)).1.isOk = false := by
    decide +kernel
  have hafter : (Executor.plain.apply ⟨1, "m", "1_m.sql", ""⟩ ["CREATE TABLE a (x)", "COMMIT"] "tester" ⟨0, 0⟩
      (ensureTables .empty)).2 ≠ ensureTables .empty := by
    decide +kernel
  rw [AllOrNothing] at h
  split at h
  · next hrun =>
    rw [hrun] at hafter
    exact hafter h
  · next hrun =>
    rw [hrun] at hfails
    simp [Except.isOk, Except.toBool] at hfails

end SchemaMigration.Sqlite
