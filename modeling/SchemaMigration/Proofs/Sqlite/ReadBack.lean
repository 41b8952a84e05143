import Mathlib.Data.List.Nodup
import SchemaMigration.Proofs.Sqlite.Reading
import SchemaMigration.Proofs.Sqlite.Refinement

/-!
# Records are read back as they were added

`Filed`         : rows whose versions are integers, no two of them the same; the table has no others.
`LeavesRecords` : scripts after which the table of records is as before, and no trigger watches for new ones.
`sortRows_append`     : a row of a new version comes between others that stay in their order.
`readRecords_apply`   : after a migration, its record is read among those from before, in any dialect of SQL.
-/

namespace SchemaMigration.Sqlite

set_option autoImplicit false

open Sql (Database Table Row Value cell sameName Apart)
open Time (Instant)

variable {σ : Type} {e : Executor σ}

/-! ## Vocabulary -/

/-- What the key of the table of records says of its rows: their versions are integers, no two of them the same. -/
structure Filed (rows : List Row) : Prop where
  integers : ∀ row ∈ rows, ∃ n, cell row 0 = .integer n
  distinct : (rows.map versionCell).Nodup

/-- If the scripts succeed, the table of records is as before, and no trigger watches for new ones. -/
def LeavesRecords (e : Executor σ) (statements : List String) (x : σ) : Prop :=
  ∀ s, e.runScripts statements (.start x) = (s, .ok ()) →
    (e.database s.db).named recordTable.name = (e.database x).named recordTable.name ∧
      (e.database s.db).watched recordTable.name .insertion = false

/-- Scripts that keep the transaction open and spare the table one by one leave it, if nothing leads to it. -/
theorem leavesRecords_of_leaves {statements : List String} {x : σ} (h : Apart recordTable.name (e.database x))
    (hopen : ∀ script ∈ statements, e.KeepsOpen script)
    (hleaves : ∀ script ∈ statements, e.Leaves recordTable.name script) : LeavesRecords e statements x := by
  intro s hrun
  have hspares := spares_runScripts hopen hleaves (s := .start x) rfl h hrun
  exact ⟨hspares.named, Database.watched_of_apart hspares.apart (Sql.sameName_self _) .insertion⟩

variable {row : Row} {rows : List Row} {db : Database}

theorem versionCell_of_integer {n : Int64} (h : cell row 0 = .integer n) : versionCell row = n := by
  rw [versionCell, h]

/-! ## The order of rows -/

theorem le_trans_versionCell (a b c : Row) :
    decide (versionCell a ≤ versionCell b) = true → decide (versionCell b ≤ versionCell c) = true →
      decide (versionCell a ≤ versionCell c) = true := by
  simp only [decide_eq_true_eq]
  exact Int64.le_trans

theorem le_total_versionCell (a b : Row) :
    (decide (versionCell a ≤ versionCell b) || decide (versionCell b ≤ versionCell a)) = true := by
  simp only [Bool.or_eq_true, decide_eq_true_eq]
  exact Int64.le_total _ _

theorem sortRows_perm (rows : List Row) : (sortRows rows).Perm rows := List.mergeSort_perm rows _

theorem pairwise_sortRows (rows : List Row) :
    (sortRows rows).Pairwise fun a b => versionCell a ≤ versionCell b := by
  have h := List.pairwise_mergeSort le_trans_versionCell le_total_versionCell rows
  exact h.imp of_decide_eq_true

/-- If no two versions are the same, the order in which the rows were added is of no account. -/
theorem sortRows_eq_of_perm {rows' : List Row} (h : rows.Perm rows') (hdistinct : (rows.map versionCell).Nodup) :
    sortRows rows = sortRows rows' := by
  have hperm : (sortRows rows).Perm (sortRows rows') :=
    (sortRows_perm rows).trans (h.trans (sortRows_perm rows').symm)
  refine hperm.eq_of_pairwise (fun a b ha hb hab hba => ?_) (pairwise_sortRows rows) (pairwise_sortRows rows')
  have hb' := h.symm.subset (mem_sortRows.1 hb)
  exact List.inj_on_of_nodup_map hdistinct (mem_sortRows.1 ha) hb' (Int64.le_antisymm hab hba)

/-- A row of a new version comes between others that stay in their order. -/
theorem sortRows_append (h : ((rows ++ [row]).map versionCell).Nodup) :
    ∃ before rest, sortRows rows = before ++ rest ∧ sortRows (rows ++ [row]) = before ++ row :: rest := by
  obtain ⟨before, rest, hwith, hwithout, -⟩ :=
    List.mergeSort_cons le_trans_versionCell le_total_versionCell row rows
  refine ⟨before, rest, hwithout, ?_⟩
  rw [sortRows_eq_of_perm List.perm_append_comm h]
  exact hwith

/-! ## One more row -/

theorem HasRows.of_named {db' : Database} (h : HasRows rows db)
    (hnamed : db'.named recordTable.name = db.named recordTable.name) : HasRows rows db' :=
  (Database.table?_congr hnamed).trans h

theorem HasRows.put (h : HasRows rows db) (rows' : List Row) : HasRows rows' (db.put (recordTableWith rows')) := by
  have hsame : sameName (recordTableWith rows').name recordTable.name = true := Sql.sameName_self _
  rw [HasRows, Database.table?_eq_head?] at h ⊢
  rw [Database.named_put_same hsame, List.head?_map, h]
  rfl

/-- A row that fits has a version that none of the others has. -/
theorem Filed.append (h : Filed rows) {n : Int64} (hrow : cell row 0 = .integer n)
    (hfits : (recordTableWith rows).objection? row = none) : Filed (rows ++ [row]) where
  integers := by
    intro x hx
    obtain hx | hx := List.mem_append.1 hx
    · exact h.integers x hx
    · rw [List.mem_singleton.1 hx]
      exact ⟨n, hrow⟩
  distinct := by
    have hkey : ({ name := "version", type := "INTEGER", key := true }, 0) ∈ (recordTableWith rows).places :=
      List.mem_cons_self
    have hnew := (objection?_eq_none.1 hfits _ hkey).2.2 (.inl rfl)
    rw [List.map_append, List.map_singleton, List.nodup_append]
    refine ⟨h.distinct, List.nodup_singleton _, fun v hv w hw heq => ?_⟩
    obtain ⟨x, hx, rfl⟩ := List.mem_map.1 hv
    rw [List.mem_singleton.1 hw, versionCell_of_integer hrow] at heq
    obtain ⟨k, hk⟩ := h.integers x hx
    rw [versionCell_of_integer hk] at heq
    have hhas : (recordTableWith rows).has 0 (cell row 0) = true := by
      rw [Table.has, hrow, Bool.and_eq_true, List.any_eq_true]
      exact ⟨rfl, x, hx, by simp [hk, heq, Value.same]⟩
    rw [hhas] at hnew
    cases hnew

/-- A row that the table of records gains is one more, of a new version. -/
theorem HasRows.of_gainsRow {after : Database} (h : HasRows rows db) (hrows : Filed rows) {n : Int64}
    (hrow : cell row 0 = .integer n) (hgains : GainsRow row db after) :
    HasRows (rows ++ [row]) after ∧ Filed (rows ++ [row]) := by
  obtain ⟨table, stored, htable, rfl, hstored⟩ := hgains
  obtain rfl := Option.some.inj (h.symm.trans htable)
  obtain ⟨rfl, hfits⟩ := hstored rfl
  exact ⟨h.put _, hrows.append hrow hfits⟩

/-! ## After a migration -/

/-- A migration that succeeds adds one row to the table of records, if its scripts leave the table. -/
theorem HasRows.apply_eq_ok (he : e.Lawful) {x after : σ} (h : HasRows rows (e.database x)) (hrows : Filed rows)
    {m : Migration} {statements : List String} {user : String} {now : Instant} {r : Record}
    (hleaves : LeavesRecords e statements x) (happly : e.apply m statements user now x = (.ok r, after)) :
    r = m.record user now ∧ HasRows (rows ++ [recordRow r]) (e.database after) ∧ Filed (rows ++ [recordRow r]) := by
  obtain ⟨s, t, hdone, happly'⟩ | ⟨t, hfails⟩ := apply_cases e m statements user now x
  · rw [happly'] at happly
    obtain ⟨hr, rfl⟩ := Prod.mk.inj happly
    obtain rfl := Except.ok.inj hr
    obtain ⟨hnamed, hquiet⟩ := hleaves s hdone.run
    exact ⟨rfl, (h.of_named hnamed).of_gainsRow hrows rfl (he.addRecord_grows _ s t hdone.record hquiet)⟩
  · obtain ⟨f, hf⟩ := apply_of_fails hfails
    rw [hf] at happly
    cases (Prod.mk.inj happly).1

/-- After a migration that succeeds, the records are those from before, unchanged and in their order, and among them the
one that the migration was answered with, in all that it says. -/
theorem readRecords_apply (he : e.Lawful) {x after : σ} {m : Migration} {statements : List String} {user : String}
    {now : Instant} {earlier : List Record} {r : Record} (hdb : HasRows rows (e.database x)) (hrows : Filed rows)
    (hearlier : readRecords (e.database x) = .ok earlier) (hnow : now.IsPlain) (hleaves : LeavesRecords e statements x)
    (happly : e.apply m statements user now x = (.ok r, after)) :
    r = m.record user now ∧
      ∃ before rest, earlier = before ++ rest ∧ readRecords (e.database after) = .ok (before ++ r :: rest) := by
  obtain ⟨rfl, hafter, hfiled⟩ := hdb.apply_eq_ok he hrows hleaves happly
  refine ⟨rfl, ?_⟩
  obtain ⟨rowsBefore, rowsRest, hsorted, hsorted'⟩ := sortRows_append hfiled.distinct
  rw [hdb.readRecords, hsorted, List.mapM_append] at hearlier
  obtain ⟨before, hbefore, hearlier⟩ := Sql.bind_eq_ok hearlier
  obtain ⟨rest, hrest, hearlier⟩ := Sql.bind_eq_ok hearlier
  refine ⟨before, rest, (Except.ok.inj hearlier).symm, ?_⟩
  have hrecord : decodeRow (recordRow (m.record user now)) = .ok (m.record user now) := decodeRow_recordRow hnow
  rw [hafter.readRecords, hsorted', List.mapM_append, hbefore, List.mapM_cons, hrecord, hrest]
  rfl

/-- A row that was written by hand, with a time in the plain form, and then the last of all versions, which is stored as
a negative number and so comes first. -/
theorem readRecords_apply_last :
    let byHand : Row := [.integer 5, .text "hand", .text "c0ffee", .text "ann", .text "2026-01-02 03:04:05"]
    let db := (ensureTables .empty).put (recordTableWith [byHand])
    let m : Migration := ⟨18446744073709551615, "last", "18446744073709551615_last.sql", "CREATE TABLE a (x)"⟩
    let now : Instant := ⟨1767225600, 123456789⟩
    Executor.Lawful .plain ∧ LeavesRecords .plain ["CREATE TABLE a (x)"] db ∧
      ∃ r after, Executor.plain.apply m ["CREATE TABLE a (x)"] "bob" now db = (.ok r, after) ∧ r = m.record "bob" now ∧
        ∃ before rest, [⟨5, "hand", "c0ffee", "ann", ⟨1767323045, 0⟩⟩] = before ++ rest ∧
          readRecords after = .ok (before ++ r :: rest) := by
  intro byHand db m now
  have hdb : HasRows [byHand] db := by
    rw [HasRows]
    decide +kernel
  have hrows : Filed [byHand] := ⟨by simp [byHand, cell], List.nodup_singleton _⟩
  have hearlier : readRecords db = .ok [⟨5, "hand", "c0ffee", "ann", ⟨1767323045, 0⟩⟩] := by decide +kernel
  have hnow : now.IsPlain := ⟨by decide +kernel, .inl (by decide)⟩
  have hapart : Apart recordTable.name db := ⟨by decide +kernel, by decide +kernel⟩
  have hoff : KeepsOff .plain ["CREATE TABLE a (x)"] :=
    keepsOff_nil.cons_single (x := .createTable false ⟨"a", "a", 13⟩ [{ name := "x" }]) (by decide +kernel)
  have hleaves : LeavesRecords .plain ["CREATE TABLE a (x)"] db :=
    leavesRecords_of_leaves hapart hoff.keepsOpen hoff.records
  have hok : (Executor.plain.apply m ["CREATE TABLE a (x)"] "bob" now db).1.isOk = true := by decide +kernel
  refine ⟨Executor.lawful_plain, hleaves, ?_⟩
  cases happly : Executor.plain.apply m ["CREATE TABLE a (x)"] "bob" now db with
  | mk answer after =>
    cases answer with
    | error f =>
      rw [happly] at hok
      cases hok
    | ok r =>
      have hread := readRecords_apply Executor.lawful_plain (x := db) hdb hrows hearlier hnow hleaves happly
      exact ⟨r, after, rfl, hread⟩

end SchemaMigration.Sqlite
