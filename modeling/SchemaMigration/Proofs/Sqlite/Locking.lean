import SchemaMigration.Proofs.Sqlite.Book

/-!
# Calls of the lock

`tryLock_free`, `tryLock_held` : asking for the lock, while nobody has it and while somebody does.
`removeLock_free`, `removeLock_held` : taking the row of the lock away.
`unlock_own`, `unlock_other`, `forceUnlock_held` : who can take it away.

Nothing leads to the table of the lock, so that its row comes and goes alone.
-/

namespace SchemaMigration.Sqlite

set_option autoImplicit false

open Sql (Database Table Row Draft Refusal cell sameName Apart)
open Time (Instant)

variable {db : Database}

/-! ## One statement -/

/-- A statement outside transactions that breaks no reference is done. -/
theorem execute_of_ok {f : Draft → Except Refusal Draft} {d : Draft} (hd : f (.start db 0) = .ok d)
    (hkept : d.tally.deferred ≤ 0) : db.execute f = .ok (d.changed, d.db) := by
  rw [Database.execute, hd]
  exact if_neg (Int.not_lt.2 hkept)

theorem execute_of_error {f : Draft → Except Refusal Draft} {r : Refusal} (hr : f (.start db 0) = .error r) :
    db.execute f = .error r := by
  rw [Database.execute, hr]
  rfl

/-- A row of the lock is stored as it is. -/
theorem typed_lockRow (rows : List Row) (holder : String) (now : Instant) :
    (lockTableWith rows).typed (lockRow holder now) = .ok (lockRow holder now) := by
  let t := lockTableWith rows
  have hkey : t.stored { name := "id", type := "INTEGER", key := true, only := some 1 } 0 (.integer 1) = .ok (.integer 1) :=
    rfl
  change List.mapM (fun p => t.stored p.1.1 p.1.2 p.2)
    [(({ name := "id", type := "INTEGER", key := true, only := some 1 }, 0), .integer 1),
      ((textColumn "holder", 1), .text holder), ((textColumn "acquired_at", 2), .text now.stored)] = _
  simp only [List.mapM_cons, List.mapM_nil, hkey, stored_textColumn]
  rfl

/-- The row of the lock comes if the table has no objection to it, and is passed over otherwise. -/
theorem insert_lockRow {rows : List Row} (h : Apart lockTable.name db)
    (ht : db.table? lockTable.name = some (lockTableWith rows)) (holder : String) (now : Instant) :
    db.execute (Draft.insert true (insertionInto lockTable (lockRow holder now))) =
      match (lockTableWith rows).objection? (lockRow holder now) with
      | some _ => .ok (0, db)
      | none => .ok (1, db.put (lockTableWith (rows ++ [lockRow holder now]))) := by
  have hshape : Sql.shapeObjection? (lockTableWith rows) (insertionInto lockTable (lockRow holder now)) = none := by
    rfl
  have hspread : Sql.spread (lockTableWith rows) (insertionInto lockTable (lockRow holder now)).columns
      (lockRow holder now) = lockRow holder now := by
    rfl
  have htyped : (lockTableWith rows).typed (Sql.spread (lockTableWith rows)
      (insertionInto lockTable (lockRow holder now)).columns (lockRow holder now)) = .ok (lockRow holder now) := by
    rw [hspread, typed_lockRow]
  have hinsert := Draft.insert_of_apart (d := .start db 0) (i := insertionInto lockTable (lockRow holder now)) h rfl
    (Int.le_refl 0) (Sql.sameName_self lockTable.name) ht rfl hshape (mapM_termValue (lockRow holder now)) htyped true
  cases hfits : (lockTableWith rows).objection? (lockRow holder now) with
  | some r =>
    rw [hfits] at hinsert
    exact execute_of_ok hinsert (Int.le_refl 0)
  | none =>
    rw [hfits] at hinsert
    exact execute_of_ok hinsert (Int.le_refl 0)

theorem places_lockTableWith (rows : List Row) : (lockTableWith rows).places =
    [({ name := "id", type := "INTEGER", key := true, only := some 1 }, 0), (textColumn "holder", 1),
      (textColumn "acquired_at", 2)] := rfl

/-! ## Asking for the lock -/

theorem tryLock_of_none (h : db.table? lockTable.name = none) (holder : String) (now : Instant) (attempts : Nat) :
    ∃ f, tryLock holder now attempts db = (.error f, db) := by
  cases attempts with
  | zero => exact ⟨_, rfl⟩
  | succ attempts =>
    have hrefused : (Draft.start db 0).insert true (insertionInto lockTable (lockRow holder now)) =
        .error (.noTable lockTable.name) :=
      Draft.insert_of_none (d := .start db 0) (i := insertionInto lockTable (lockRow holder now)) h true
    rw [tryLock, execute_of_error hrefused]
    exact ⟨_, rfl⟩

/-- Who asks for the lock while nobody has it gets it. -/
theorem tryLock_free (h : Apart lockTable.name db) (ht : db.table? lockTable.name = some lockTable) (holder : String)
    (now : Instant) (attempts : Nat) :
    tryLock holder now (attempts + 1) db = (.ok .acquired, db.put (lockTableWith [lockRow holder now])) := by
  have hfits : (lockTableWith []).objection? (lockRow holder now) = none := by
    have hone : (Sql.Value.integer 1).same (({ name := "id", type := "INTEGER", key := true, only := some 1 } :
        Sql.Column).affinity.take (.integer 1)) = true := by
      decide
    rw [objection?_eq_none, places_lockTableWith]
    simp [lockTableWith, lockRow, textColumn, cell, Table.has, hone, Sql.Column.allows]
  have hempty : db.table? lockTable.name = some (lockTableWith []) := ht
  have hinsert := insert_lockRow h hempty holder now
  rw [hfits] at hinsert
  rw [tryLock, hinsert]
  rfl

/-- Who asks for the lock while somebody has it is told who that is. -/
theorem tryLock_held (h : Apart lockTable.name db) {other time : String}
    (ht : db.table? lockTable.name = some (lockTableWith [[.integer 1, .text other, .text time]])) (holder : String)
    (now : Instant) (attempts : Nat) : tryLock holder now (attempts + 1) db = (.ok (.heldBy other), db) := by
  have htaken : ∃ r, (lockTableWith [[.integer 1, .text other, .text time]]).objection? (lockRow holder now) = some r := by
    rw [← Option.ne_none_iff_exists', ne_eq, objection?_eq_none, places_lockTableWith]
    simp [lockTableWith, lockRow, textColumn, cell, Table.has, Sql.Column.allows, Sql.Value.same]
  obtain ⟨r, hr⟩ := htaken
  have hinsert := insert_lockRow h ht holder now
  rw [hr] at hinsert
  have hholder : readHolder db = .ok (some other) := by
    rw [readHolder, ht]
    rfl
  rw [tryLock, hinsert]
  simp only [hholder]
  rfl

/-! ## Giving the lock back -/

theorem removeLock_of_none (h : db.table? lockTable.name = none) (p : Row → Bool) (failure text : String) :
    ∃ f, removeLock p failure text db = (.error f, db) := by
  have hrefused : (Draft.start db 0).delete (nameOf lockTable) p = .error (.noTable lockTable.name) :=
    Draft.delete_of_none (d := .start db 0) (n := nameOf lockTable) h p
  rw [removeLock, execute_of_error hrefused]
  exact ⟨_, rfl⟩

theorem removeLock_free (h : Apart lockTable.name db) {rows : List Row}
    (ht : db.table? lockTable.name = some (lockTableWith rows)) {p : Row → Bool} (hp : rows.filter p = [])
    (failure text : String) : removeLock p failure text db = (.ok 0, db) := by
  have hdelete := Draft.delete_none_of_apart (d := .start db 0) (n := nameOf lockTable) h rfl (Int.le_refl 0)
    (Sql.sameName_self lockTable.name) ht hp
  rw [removeLock, execute_of_ok hdelete (Int.le_refl 0)]
  rfl

theorem removeLock_held (h : Apart lockTable.name db) {row : Row}
    (ht : db.table? lockTable.name = some (lockTableWith [row])) {p : Row → Bool} (hp : p row = true)
    (failure text : String) : removeLock p failure text db = (.ok 1, db.put lockTable) := by
  have hdelete := Draft.delete_only_of_apart (d := .start db 0) (n := nameOf lockTable) h rfl (Int.le_refl 0)
    (Sql.sameName_self lockTable.name) ht rfl hp
  rw [removeLock, execute_of_ok hdelete (Int.le_refl 0)]
  rfl

theorem unlock_of_none (h : db.table? lockTable.name = none) (holder : String) :
    ∃ f, unlock holder db = (.error f, db) := by
  obtain ⟨f, hf⟩ := removeLock_of_none h (isLockRowOf holder) "failed to release lock: "
    "DELETE FROM _migrun_lock WHERE id = 1 AND holder = ?1"
  rw [unlock, hf]
  exact ⟨_, rfl⟩

/-- The holder of the lock gives it back. -/
theorem unlock_own (h : Apart lockTable.name db) {holder time : String}
    (ht : db.table? lockTable.name = some (lockTableWith [[.integer 1, .text holder, .text time]])) :
    unlock holder db = (.ok (), db.put lockTable) := by
  have hrow : isLockRowOf holder [.integer 1, .text holder, .text time] = true := by
    simp [isLockRowOf, isLockRow, cell]
  rw [unlock, removeLock_held h ht hrow]
  rfl

/-- Nobody else gives it back. -/
theorem unlock_other (h : Apart lockTable.name db) {holder : String} {rows : List Row}
    (ht : db.table? lockTable.name = some (lockTableWith rows)) (hrows : rows.filter (isLockRowOf holder) = []) :
    unlock holder db = (.ok (), db) := by
  rw [unlock, removeLock_free h ht hrows]
  rfl

theorem LockRows.filter_of_ne {lock : Option String} {holder : String} {rows : List Row} (h : LockRows lock rows)
    (hother : lock ≠ some holder) : rows.filter (isLockRowOf holder) = [] := by
  cases h with
  | free => rfl
  | held other time =>
    have hne : other ≠ holder := fun heq => hother (congrArg some heq)
    simp [isLockRowOf, isLockRow, cell, hne]

theorem forceUnlock_of_none (h : db.table? lockTable.name = none) : forceUnlock db = (.ok false, db) := by
  rw [forceUnlock, Database.spelled?_of_none h]
  rfl

theorem forceUnlock_free (h : Apart lockTable.name db) (ht : db.table? lockTable.name = some lockTable) :
    forceUnlock db = (.ok false, db) := by
  have hspelled := Database.spelled?_of_some ht rfl
  have hempty : db.table? lockTable.name = some (lockTableWith []) := ht
  rw [forceUnlock, hspelled, if_neg (by simp), removeLock_free h hempty rfl]
  rfl

theorem forceUnlock_held (h : Apart lockTable.name db) {holder time : String}
    (ht : db.table? lockTable.name = some (lockTableWith [[.integer 1, .text holder, .text time]])) :
    forceUnlock db = (.ok true, db.put lockTable) := by
  have hspelled := Database.spelled?_of_some ht rfl
  rw [forceUnlock, hspelled, if_neg (by simp), removeLock_held h ht rfl]
  rfl

end SchemaMigration.Sqlite
