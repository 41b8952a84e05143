import SchemaMigration.Proofs.Sqlite.Records
import SchemaMigration.Sqlite.Executor

/-!
# What migrations rely on

`Executor.Lawful`    : what the insertion of a record does in any dialect of SQL.
`Executor.KeepsOpen` : inside a transaction, a script does not end it, and nobody else sees what the script does.
`Executor.Leaves`    : inside a transaction, a script spares the tables of a name.
`lawful_plain`       : databases that are no more than their tables, indexes and triggers keep the laws.
`keepsOpen_plain`, `leaves_plain` : their scripts do so if their statements neither end the transaction nor name the table.
-/

namespace SchemaMigration.Sqlite

set_option autoImplicit false

open Sql (Database Table Row Session Transaction Draft Refusal Reads Apart Spares Avoids)

namespace Executor

variable {σ : Type}

/-! ## Laws -/

/-- What is relied on of an executor, whatever scripts it can run. -/
structure Lawful (e : Executor σ) : Prop where
  database_replace : ∀ db x, e.database (e.replace db x) = db
  replace_database : ∀ x, e.replace (e.database x) x = x
  /-- Inside a transaction, nobody else sees anything of the insertion of a record. -/
  abandon_addRecord : ∀ r s x, s.saved = some x → (e.addRecord r s).1.abandon = x
  /-- Where no trigger watches it, the insertion of a record adds its row and does nothing else. -/
  addRecord_grows : ∀ r s t, e.addRecord r s = (t, .ok ()) →
    (e.database s.db).watched recordTable.name .insertion = false →
      GainsRow (recordRow r) (e.database s.db) (e.database t.db)
  /-- If nothing leads to the table and it has the columns that it was made with, a record is added inside a transaction
  if its row fits, and is refused otherwise. -/
  addRecord_fits : ∀ r s table, s.saved.isSome → (e.database s.db).table? recordTable.name = some table →
    table.columns = recordTable.columns → Apart recordTable.name (e.database s.db) →
      e.addRecord r s =
        match table.objection? (recordRow r) with
        | some refusal => (s, .error refusal)
        | none =>
          let db := (e.database s.db).put { table with rows := table.rows ++ [recordRow r] }
          (⟨e.replace db s.db, s.saved, s.deferred⟩, .ok ())
  /-- Without the table, and without triggers that could act for it, a record is refused. -/
  addRecord_of_none : ∀ r s, (e.database s.db).table? recordTable.name = none →
    (e.database s.db).watched recordTable.name .insertion = false → (e.addRecord r s).2.isOk = false

/-- Inside a transaction, the script does not end it unless it is refused, and nobody else sees anything of it. -/
structure KeepsOpen (e : Executor σ) (script : String) : Prop where
  saved : ∀ s t x, s.saved = some x → e.run script s = (t, .ok ()) → t.saved = some x
  abandon : ∀ s x, s.saved = some x → (e.run script s).1.abandon = x

/-- Inside a transaction, the script spares the tables of that name unless it is refused. -/
def Leaves (e : Executor σ) (name script : String) : Prop :=
  ∀ s t, s.saved.isSome → Apart name (e.database s.db) → e.run script s = (t, .ok ()) →
    Spares name (e.database s.db) (e.database t.db)

/-! ## Plain databases -/

theorem addRecord_plain_eq_ok {r : Record} {s t : Session} (h : plain.addRecord r s = (t, .ok ())) :
    s.change (Draft.insert false (recordInsertion r)) = .ok t := by
  change changed s _ = _ at h
  unfold changed at h
  split at h
  · cases h
  · next hs =>
    obtain ⟨rfl, -⟩ := Prod.mk.inj h
    exact hs

/-- The insertion of a record neither begins nor ends a transaction. -/
theorem saved_addRecord_plain (r : Record) (s : Session) : (plain.addRecord r s).1.saved = s.saved := by
  change (changed s _).1.saved = _
  unfold changed
  split
  · rfl
  · next hs =>
    obtain ⟨d, -, -, hsaved⟩ := Sql.change_eq_ok hs
    exact hsaved

/-- What an insertion of a record keeps of a database it keeps of a session. -/
theorem has_addRecord_plain {P : Database → Prop} {r : Record} {s : Session} (hs : s.Has P)
    (h : ∀ d d' : Draft, P d.db → d.insert false (recordInsertion r) = .ok d' → P d'.db) :
    (plain.addRecord r s).1.Has P := by
  change (changed s _).1.Has P
  unfold changed
  split
  · exact hs
  · next hchange => exact Session.has_change hs h hchange

theorem changed_of_ok {s : Session} {before : Database} (hs : s.saved = some before)
    {f : Draft → Except Refusal Draft} {d : Draft} (hd : f (.start s.db s.deferred) = .ok d) :
    changed s f = (⟨d.db, s.saved, d.tally.deferred⟩, .ok ()) := by
  rw [changed, Sql.change_of_ok hs hd]

theorem changed_of_error {s : Session} {f : Draft → Except Refusal Draft} {r : Refusal}
    (hr : f (.start s.db s.deferred) = .error r) : changed s f = (s, .error r) := by
  rw [changed, Sql.change_of_error hr]

theorem lawful_plain : Lawful plain where
  database_replace _ _ := rfl
  replace_database _ := rfl
  abandon_addRecord r s x hs := Transaction.abandon_of_saved ((saved_addRecord_plain r s).trans hs)
  addRecord_grows r s t h hquiet := by
    obtain ⟨d, hd, hdb, -⟩ := Sql.change_eq_ok (addRecord_plain_eq_ok h)
    have hgains : GainsRow (recordRow r) s.db d.db := gainsRow_of_insert hquiet rfl hd
    rwa [← hdb] at hgains
  addRecord_fits r s table hs htable hcolumns hapart := by
    obtain ⟨before, hs⟩ := Option.isSome_iff_exists.1 hs
    have hinsert := insert_row (d := .start s.db s.deferred) hapart (Int.le_refl 0) htable hcolumns
      (storedVersion r.version) r.name r.checksum r.appliedBy r.appliedAt.stored
    change changed s _ = _
    cases hfits : table.objection? (recordRow r) with
    | some refusal => exact changed_of_error (hinsert.trans (by rw [← recordRow, hfits]))
    | none => exact changed_of_ok hs (hinsert.trans (by rw [← recordRow, hfits]))
  addRecord_of_none r s h _ := by
    have hrefused : (Draft.start s.db s.deferred).insert false (recordInsertion r) = .error (.noTable recordTable.name) :=
      Draft.insert_of_none (d := .start s.db s.deferred) (i := recordInsertion r) h false
    change (changed s _).2.isOk = false
    rw [changed_of_error hrefused]
    rfl

/-- The scripts of plain databases keep a transaction open if none of their statements ends it. -/
theorem keepsOpen_plain {script : String} (h : ∀ x, Reads script.toList x → x.endsTransaction = false) :
    plain.KeepsOpen script where
  saved s t x hs hrun := by
    have hsaved : (Session.runScript script s).1.saved = some x := Sql.saved_run h hs
    have hrun : Session.runScript script s = (t, .ok ()) := hrun
    rwa [hrun] at hsaved
  abandon s x hs := by
    have hsaved : (Session.runScript script s).1.saved = some x := Sql.saved_run h hs
    exact Transaction.abandon_of_saved hsaved

/-- They spare a table if none of their statements ends the transaction or names the table. -/
theorem leaves_plain {name script : String}
    (h : ∀ x, Reads script.toList x → x.endsTransaction = false ∧ Avoids name x.names) : plain.Leaves name script := by
  intro s t hs hapart hrun
  have hspares : Spares name s.db (Session.runScript script s).1.db := Session.spares_run h hs hapart
  have hrun : Session.runScript script s = (t, .ok ()) := hrun
  rwa [hrun] at hspares

end Executor

end SchemaMigration.Sqlite
