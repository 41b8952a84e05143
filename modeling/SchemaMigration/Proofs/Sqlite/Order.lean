import Mathlib.Data.List.Pairwise
import SchemaMigration.Proofs.Sqlite.ReadBack

/-!
# The order of records

`Filing`        : a migration that is applied, or a row that somebody adds by hand.
`Kept`          : the table of records has rows that can be read, no version twice, and nothing else leads to it.
`Ordered.pairwise_version_iff` : in the order of their stored versions, records are in that of their versions unless
these are on both sides of the greatest signed word.
`readRecords_order`    : this is the order in which records are read, whatever was filed before.
`not_ascending_large`  : so a version that is stored as a negative number comes before all small ones.
-/

namespace SchemaMigration.Sqlite

set_option autoImplicit false

open Sql (Database Row Transaction Session Statement Draft Reads cell Apart Avoids)
open Time (Instant)

variable {rows : List Row} {db : Database}

/-! ## What migrations keep -/

section

variable {σ : Type} {e : Executor σ} {P : σ → Prop}

theorem has_runScripts {statements : List String} {s : Transaction σ} (h : s.Has P)
    (hstatements : ∀ script ∈ statements, ∀ s : Transaction σ, s.Has P → (e.run script s).1.Has P) :
    (e.runScripts statements s).1.Has P := by
  induction statements generalizing s with
  | nil => exact h
  | cons script statements ih =>
    have hfirst := hstatements script List.mem_cons_self s h
    rw [Executor.runScripts]
    split
    · next t hrun =>
      rw [hrun] at hfirst
      exact ih hfirst fun y hy => hstatements y (List.mem_cons_of_mem _ hy)
    · next t reason hrun =>
      rw [hrun] at hfirst
      exact hfirst

/-- What the scripts of a migration and the insertion of its record keep is kept by the migration, however it ends. -/
theorem has_apply {m : Migration} {statements : List String} {user : String} {now : Instant} {x : σ} (h : P x)
    (hstatements : ∀ script ∈ statements, ∀ s : Transaction σ, s.Has P → (e.run script s).1.Has P)
    (hrecord : ∀ s : Transaction σ, s.Has P → (e.addRecord (m.record user now) s).1.Has P) :
    P (e.apply m statements user now x).2 := by
  have hran : (e.runScripts statements (.start x)).1.Has P := has_runScripts (Transaction.has_start h) hstatements
  have hadded := hrecord _ hran
  obtain ⟨s, t, hdone, happly⟩ | ⟨t, hfails⟩ := apply_cases e m statements user now x
  · rw [hdone.run, hdone.record] at hadded
    rw [happly]
    exact hadded.1
  · obtain ⟨f, hf⟩ := apply_of_fails hfails
    rw [hf]
    have ht : t.Has P := by
      cases hfails with
      | statement hrun =>
        rw [hrun] at hran
        exact hran
      | record hrun hrefused | commit hrun hrefused _ =>
        rw [hrun, hrefused] at hadded
        exact hadded
    exact ht.abandon

end

/-! ## What is filed -/

/-- What adds a row to the table of records: a migration, or somebody's hand. -/
inductive Filing
  | applied (m : Migration) (statements : List String) (user : String) (now : Instant)
  | inserted (version : Int64) (name checksum user time : String)

/-- The row that is added by hand. -/
def handRow (version : Int64) (name checksum user time : String) : Row :=
  [.integer version, .text name, .text checksum, .text user, .text time]

/-- A database after something was filed; a row that does not fit is not added. -/
def Filing.file : Filing → Database → Database
  | applied m statements user now, db => (Executor.plain.apply m statements user now db).2
  | inserted version name checksum user time, db =>
    match db.execute (Draft.insert false (insertionInto recordTable (handRow version name checksum user time))) with
    | .error _ => db
    | .ok (_, after) => after

def afterFilings (filings : List Filing) (db : Database) : Database := filings.foldl (fun db x => x.file db) db

/-- A migration does not name the table of records in its statements, which may well begin and end transactions, and is
applied at a time of a year with four digits. A row that is added by hand has a time that can be read. -/
def Filing.Admitted : Filing → Prop
  | applied _ statements _ now =>
    now.IsPlain ∧ ∀ script ∈ statements, ∀ x, Reads script.toList x → Avoids recordTable.name x.names
  | inserted _ _ _ _ time => (readTime? time).isSome

/-- The table of records has rows that can be read, no version twice, and nothing else leads to it. -/
structure Kept (db : Database) : Prop where
  rows : ∃ rows, HasRows rows db ∧ Filed rows ∧ ∀ row ∈ rows, ¬Unreadable row
  apart : Apart recordTable.name db

/-! ## Filing -/

theorem kept_of_empty (h : HasRows [] db) (hapart : Apart recordTable.name db) : Kept db where
  rows := ⟨[], h, ⟨by simp, List.nodup_nil⟩, by simp⟩
  apart := hapart

theorem Kept.exec {d d' : Draft} (h : Kept d.db) {x : Statement} (hx : Avoids recordTable.name x.names)
    (hrun : d.exec x = .ok d') : Kept d'.db := by
  have hspares := Draft.spares_exec hx h.apart hrun
  obtain ⟨rows, hdb, hfiled, hread⟩ := h.rows
  exact ⟨⟨rows, hdb.of_named hspares.named, hfiled, hread⟩, hspares.apart⟩

theorem not_unreadable_recordRow {r : Record} (hr : r.appliedAt.IsPlain) : ¬Unreadable (recordRow r) := by
  obtain ⟨s, -, hreads⟩ | ⟨-, reason, hfault⟩ := decodeRow_cases (recordRow r)
  · exact hreads.not_unreadable
  · rw [decodeRow_recordRow hr] at hfault
    cases hfault

theorem not_unreadable_handRow {version : Int64} {name checksum user time : String} (h : (readTime? time).isSome) :
    ¬Unreadable (handRow version name checksum user time) := by
  obtain ⟨t, ht⟩ := Option.isSome_iff_exists.1 h
  have hreads : ReadsAs (handRow version name checksum user time) ⟨versionOfStored version, name, checksum, user, t⟩ :=
    ⟨rfl, rfl, rfl, rfl, time, rfl, ht⟩
  exact hreads.not_unreadable

/-- A row that is inserted and can be read is one more. -/
theorem Kept.insert {d d' : Draft} (h : Kept d.db) {version : Int64} {name checksum user time : String} {row : Row}
    (hrow : row = handRow version name checksum user time) (hread : ¬Unreadable row)
    (hinsert : d.insert false (insertionInto recordTable row) = .ok d') : Kept d'.db := by
  have hquiet := Database.watched_of_apart h.apart (Sql.sameName_self recordTable.name) .insertion
  have hgains := gainsRow_of_insert hquiet hrow hinsert
  obtain ⟨rows, hdb, hfiled, hothers⟩ := h.rows
  have hversion : cell row 0 = .integer version := by
    rw [hrow]
    rfl
  obtain ⟨hdb', hfiled'⟩ := hdb.of_gainsRow hfiled hversion hgains
  refine ⟨⟨rows ++ [row], hdb', hfiled', fun x hx => ?_⟩, ?_⟩
  · obtain hx | hx := List.mem_append.1 hx
    · exact hothers x hx
    · rwa [List.mem_singleton.1 hx]
  · obtain ⟨table, stored, htable, hput, -⟩ := hgains
    obtain rfl := Option.some.inj (hdb.symm.trans htable)
    rw [hput]
    exact h.apart.apart_put (avoids_recordTable _)

theorem Kept.file {x : Filing} (hx : x.Admitted) (h : Kept db) : Kept (x.file db) := by
  cases x with
  | applied m statements user now =>
    refine has_apply h (fun script hscript s hs => ?_) fun s hs => ?_
    · exact Session.has_run hs fun y hy d d' hd hrun => Kept.exec hd (hx.2 script hscript y hy) hrun
    · exact Executor.has_addRecord_plain hs fun d d' hd hinsert => Kept.insert hd rfl (not_unreadable_recordRow hx.1) hinsert
  | inserted version name checksum user time =>
    rw [Filing.file]
    split
    · exact h
    · next hdone =>
      obtain ⟨d, hinsert, rfl⟩ := Database.execute_eq_ok hdone
      exact Kept.insert (d := .start db 0) h rfl (not_unreadable_handRow hx) hinsert

theorem kept_afterFilings {filings : List Filing} (hfilings : ∀ x ∈ filings, x.Admitted) (h : Kept db) :
    Kept (afterFilings filings db) := by
  induction filings generalizing db with
  | nil => exact h
  | cons x filings ih =>
    rw [List.forall_mem_cons] at hfilings
    exact ih hfilings.2 (h.file hfilings.1)

/-! ## Stored versions -/

theorem toInt_storedVersion (v : Version) :
    (storedVersion v).toInt = if v.toNat < 2 ^ 63 then (v.toNat : Int) else (v.toNat : Int) - 2 ^ 64 := by
  have hword : (storedVersion v).toInt =
      if 2 * v.toNat < 2 ^ 64 then (v.toNat : Int) else (v.toNat : Int) - (2 ^ 64 : Nat) :=
    BitVec.toInt_eq_toNat_cond v.toBitVec
  rw [hword]
  split <;> split <;> omega

theorem storedVersion_versionOfStored (n : Int64) : storedVersion (versionOfStored n) = n := Int64.toInt64_toUInt64 n

/-- On one side of the greatest signed word the stored versions are in the order of the versions, and across it they are
not. -/
theorem storedVersion_lt_iff (v w : Version) :
    storedVersion v < storedVersion w ↔
      if v.toNat < 2 ^ 63 ∧ 2 ^ 63 ≤ w.toNat ∨ 2 ^ 63 ≤ v.toNat ∧ w.toNat < 2 ^ 63 then w < v else v < w := by
  have hv : v.toNat < 18446744073709551616 := v.toNat_lt_size
  have hw : w.toNat < 18446744073709551616 := w.toNat_lt_size
  rw [Int64.lt_iff_toInt_lt, toInt_storedVersion, toInt_storedVersion, UInt64.lt_iff_toNat_lt, UInt64.lt_iff_toNat_lt]
  split <;> split <;> split <;> omega

/-! ## The order of the records -/

/-- Records are in the order of their stored versions. -/
def Ordered (rs : List Record) : Prop := rs.Pairwise fun r s => storedVersion r.version < storedVersion s.version

/-- Some version is a signed word and another is not. -/
def Straddles (rs : List Record) : Prop :=
  (∃ r ∈ rs, r.version.toNat < 2 ^ 63) ∧ ∃ s ∈ rs, 2 ^ 63 ≤ s.version.toNat

/-- Records in the order of their stored versions are in the order of their versions exactly if these are all on one side
of the greatest signed word. -/
theorem Ordered.pairwise_version_iff {rs : List Record} (h : Ordered rs) :
    rs.Pairwise (fun r s => r.version < s.version) ↔ ¬Straddles rs := by
  constructor
  · rintro hversions ⟨⟨r, hr, hlow⟩, s, hs, hhigh⟩
    -- if the two orders were the same, no two records could tell them apart
    have hagree : ∀ ⦃x⦄, x ∈ rs → ∀ ⦃y⦄, y ∈ rs →
        (x.version < y.version ↔ storedVersion x.version < storedVersion y.version) :=
      List.Pairwise.forall_of_forall_of_flip (fun x _ => iff_of_false (UInt64.lt_irrefl _) (Int64.lt_irrefl))
        ((hversions.and h).imp fun hlt => iff_of_true hlt.1 hlt.2)
        ((hversions.and h).imp fun hlt => iff_of_false (UInt64.lt_asymm hlt.1) (Int64.lt_asymm hlt.2))
    have hless : r.version < s.version := UInt64.lt_iff_toNat_lt.2 (by omega)
    have hstored : storedVersion s.version < storedVersion r.version := by
      rw [storedVersion_lt_iff, if_pos (.inr ⟨hhigh, hlow⟩)]
      exact hless
    exact Int64.lt_asymm hstored ((hagree hr hs).1 hless)
  · intro hside
    refine List.Pairwise.imp_of_mem (fun {r s} hr hs hlt => ?_) h
    rw [storedVersion_lt_iff] at hlt
    split at hlt
    · next hcross =>
      obtain ⟨hlow, hhigh⟩ | ⟨hhigh, hlow⟩ := hcross
      · exact absurd ⟨⟨r, hr, hlow⟩, s, hs, hhigh⟩ hside
      · exact absurd ⟨⟨s, hs, hlow⟩, r, hr, hhigh⟩ hside
    · exact hlt

theorem map_storedVersion_of_forall₂ {rs : List Record} (h : List.Forall₂ ReadsAs rows rs) :
    rs.map (fun r => storedVersion r.version) = rows.map versionCell := by
  induction h with
  | nil => rfl
  | cons hreads _ ih => rw [List.map_cons, List.map_cons, ih, hreads.version, storedVersion_versionOfStored]

/-- The rows of a table that can be read are read in the order of their stored versions. -/
theorem Kept.readRecords (h : Kept db) : ∃ rs, readRecords db = .ok rs ∧ Ordered rs := by
  obtain ⟨rows, hdb, hfiled, hread⟩ := h.rows
  obtain ⟨rs, hrs, hall⟩ | ⟨⟨row, hrow, hbad⟩, -⟩ := readRecords_cases hdb
  case inr => exact absurd hbad (hread row hrow)
  refine ⟨rs, hrs, ?_⟩
  have hdistinct : ((sortRows rows).map versionCell).Nodup :=
    ((sortRows_perm rows).map versionCell).nodup_iff.2 hfiled.distinct
  have hstrict : ((sortRows rows).map versionCell).Pairwise (· < ·) := by
    have hle : ((sortRows rows).map versionCell).Pairwise (· ≤ ·) := List.pairwise_map.2 (pairwise_sortRows rows)
    exact (hle.and hdistinct).imp fun h => Int64.lt_iff_le_and_ne.2 h
  rw [← map_storedVersion_of_forall₂ hall] at hstrict
  exact List.pairwise_map.1 hstrict

/-- Whatever is filed one after another, migrations of all versions and rows written by hand, the records are read in the
order of their stored versions. This is the order of their versions exactly if these are all on one side of the greatest
signed word: versions above it are stored as negative numbers and come before all others. -/
theorem readRecords_order {filings : List Filing} (hdb : HasRows [] db) (hapart : Apart recordTable.name db)
    (hfilings : ∀ x ∈ filings, x.Admitted) :
    ∃ rs, readRecords (afterFilings filings db) = .ok rs ∧ Ordered rs ∧
      (rs.Pairwise (fun r s => r.version < s.version) ↔ ¬Straddles rs) := by
  obtain ⟨rs, hrs, hordered⟩ := (kept_afterFilings hfilings (kept_of_empty hdb hapart)).readRecords
  exact ⟨rs, hrs, hordered, hordered.pairwise_version_iff⟩

/-! ## A version that is stored as a negative number -/

/-- The first version above the greatest signed word, and then the version 1. -/
def largeThenSmall : List Filing :=
  [.applied ⟨9223372036854775808, "m", "9223372036854775808_m.sql", ""⟩ [] "ann" ⟨0, 0⟩,
    .applied ⟨1, "m", "1_m.sql", ""⟩ [] "ann" ⟨0, 0⟩]

theorem admitted_largeThenSmall : ∀ x ∈ largeThenSmall, x.Admitted := by
  simp [largeThenSmall, Filing.Admitted, Instant.isPlain_epoch]

theorem hasRows_ensureTables_empty : HasRows [] (ensureTables .empty) := by
  rw [HasRows]
  decide +kernel

theorem readRecords_order_largeThenSmall :
    HasRows [] (ensureTables .empty) ∧ Apart recordTable.name (ensureTables .empty) ∧
      (∀ x ∈ largeThenSmall, x.Admitted) ∧
      ∃ rs, readRecords (afterFilings largeThenSmall (ensureTables .empty)) = .ok rs ∧ Ordered rs ∧
        (rs.Pairwise (fun r s => r.version < s.version) ↔ ¬Straddles rs) :=
  ⟨hasRows_ensureTables_empty, represents_empty.ensureTables.records, admitted_largeThenSmall,
    readRecords_order hasRows_ensureTables_empty represents_empty.ensureTables.records admitted_largeThenSmall⟩

/-- A migration without statements adds its record if it is answered. -/
theorem HasRows.apply_nil (h : HasRows rows db) (hfiled : Filed rows)
    (hquiet : db.watched recordTable.name .insertion = false) (m : Migration) (user : String) (now : Instant)
    (hok : (Executor.plain.apply m [] user now db).1.isOk = true) :
    HasRows (rows ++ [recordRow (m.record user now)]) (Executor.plain.apply m [] user now db).2 ∧
      Filed (rows ++ [recordRow (m.record user now)]) := by
  have hleaves : LeavesRecords .plain [] db := by
    intro s hrun
    obtain ⟨rfl, -⟩ := Prod.mk.inj hrun
    exact ⟨rfl, hquiet⟩
  cases happly : Executor.plain.apply m [] user now db with
  | mk answer after =>
    rw [happly] at hok
    cases answer with
    | error f => cases hok
    | ok r =>
      obtain ⟨rfl, hafter⟩ := h.apply_eq_ok Executor.lawful_plain hfiled hleaves happly
      exact hafter

/-- Records are not always read in the order of their versions. -/
theorem not_ascending_large :
    ¬∀ (filings : List Filing) (rs : List Record), (∀ x ∈ filings, x.Admitted) →
      readRecords (afterFilings filings (ensureTables .empty)) = .ok rs →
        rs.Pairwise fun r s => r.version < s.version := by
  intro h
  let large : Migration := ⟨9223372036854775808, "m", "9223372036854775808_m.sql", ""⟩
  let small : Migration := ⟨1, "m", "1_m.sql", ""⟩
  let rs := [large.record "ann" ⟨0, 0⟩, small.record "ann" ⟨0, 0⟩]
  have hempty : Filed [] := ⟨by simp, List.nodup_nil⟩
  obtain ⟨hfirst, hfiled⟩ :=
    hasRows_ensureTables_empty.apply_nil hempty (by decide +kernel) large "ann" ⟨0, 0⟩ (by decide +kernel)
  obtain ⟨hboth, -⟩ := hfirst.apply_nil hfiled (by decide +kernel) small "ann" ⟨0, 0⟩ (by decide +kernel)
  have hplain : ∀ r ∈ rs, r.appliedAt.IsPlain := by
    simp [rs, Migration.record, Instant.isPlain_epoch]
  have hread : readRecords (afterFilings largeThenSmall (ensureTables .empty)) = .ok (listed rs) := by
    have hrows : HasRows (rs.map recordRow) (afterFilings largeThenSmall (ensureTables .empty)) := hboth
    rw [hrows.readRecords, decode_sortRows hplain]
  have hkept := kept_of_empty hasRows_ensureTables_empty represents_empty.ensureTables.records
  obtain ⟨found, hfound, hordered⟩ := (kept_afterFilings admitted_largeThenSmall hkept).readRecords
  obtain rfl : listed rs = found := Except.ok.inj (hread.symm.trans hfound)
  have hmem : ∀ r ∈ rs, r ∈ listed rs := fun r hr => List.mem_mergeSort.2 hr
  have hstraddles : Straddles (listed rs) :=
    ⟨⟨_, hmem _ (List.mem_cons_of_mem _ List.mem_cons_self), by decide⟩, _, hmem _ List.mem_cons_self, by decide⟩
  exact hordered.pairwise_version_iff.1 (h largeThenSmall _ admitted_largeThenSmall hread) hstraddles

end SchemaMigration.Sqlite
