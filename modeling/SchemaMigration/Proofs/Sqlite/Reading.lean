import SchemaMigration.Proofs.Sql.Frame
import SchemaMigration.Proofs.Sqlite.Records

/-!
# How rows are read

`ReadsAs`    : what a record has of the row that it is read from.
`Unreadable` : what makes a row unreadable: a text column without a text, or a time in neither form.
`HasRows`    : the rows in the table of records.
`readRecords_cases`            : every row is read, in the order of the versions, or a fault of the database is.
`readRecords_eq_error_iff`     : which of the two is told by the rows one by one.
-/

namespace SchemaMigration.Sqlite

set_option autoImplicit false

open Sql (Database Table Row Value cell)
open Time (Instant)

/-! ## Vocabulary -/

/-- The columns of the table of records that hold texts. -/
def textPlaces : List Nat := [1, 2, 3, 4]

/-- The record is what the row says: the version without its sign, the texts, and the time that the last of them
spells. -/
structure ReadsAs (row : Row) (r : Record) : Prop where
  version : r.version = versionOfStored (versionCell row)
  name : cell row 1 = .text r.name
  checksum : cell row 2 = .text r.checksum
  appliedBy : cell row 3 = .text r.appliedBy
  appliedAt : ∃ s, cell row 4 = .text s ∧ readTime? s = some r.appliedAt

/-- What makes a row unreadable: a text column holds something else or a text that is ill-formed, or the text of the
time has neither the strict form nor the plain one. -/
inductive Unreadable (row : Row) : Prop
  | text {i : Nat} (hi : i ∈ textPlaces) (h : ∀ s, cell row i ≠ .text s)
  | time {s : String} (h : cell row 4 = .text s) (hstrict : Instant.ofRfc3339? s.toList = none)
      (hplain : Instant.ofPlain? s.toList = none)

/-- The table of records with these rows. -/
def recordTableWith (rows : List Row) : Table := { recordTable with rows }

/-- The database has the table of records, with these rows. -/
def HasRows (rows : List Row) (db : Database) : Prop := db.table? recordTable.name = some (recordTableWith rows)

variable {row : Row} {rows : List Row} {db : Database}

/-! ## One row -/

theorem readTime?_eq_none {s : String} :
    readTime? s = none ↔ Instant.ofRfc3339? s.toList = none ∧ Instant.ofPlain? s.toList = none := by
  rw [readTime?, Option.orElse_eq_orElse, Option.orElse_eq_or, Option.or_eq_none_iff]

theorem textCell_cases (row : Row) (i : Nat) (column : String) :
    (∃ s, cell row i = .text s ∧ textCell row i column = .ok s) ∨
      (∀ s, cell row i ≠ .text s) ∧ ∃ reason, textCell row i column = .error (.database reason) := by
  unfold textCell
  split
  · next s hs => exact .inl ⟨s, hs, rfl⟩
  · next hs => exact .inr ⟨hs, _, rfl⟩

/-- A row is read as one record, or it is unreadable and that is a fault of the database. -/
theorem decodeRow_cases (row : Row) :
    (∃ r, decodeRow row = .ok r ∧ ReadsAs row r) ∨
      Unreadable row ∧ ∃ reason, decodeRow row = .error (.database reason) := by
  obtain ⟨name, hname, hname'⟩ | ⟨hname, reason, hfault⟩ := textCell_cases row 1 "name"
  case inr => exact .inr ⟨.text (by decide) hname, reason, by simp [decodeRow, hfault, bind, Except.bind]⟩
  obtain ⟨checksum, hchecksum, hchecksum'⟩ | ⟨hchecksum, reason, hfault⟩ := textCell_cases row 2 "checksum"
  case inr => exact .inr ⟨.text (by decide) hchecksum, reason, by simp [decodeRow, hname', hfault, bind, Except.bind]⟩
  obtain ⟨user, huser, huser'⟩ | ⟨huser, reason, hfault⟩ := textCell_cases row 3 "applied_by"
  case inr =>
    exact .inr ⟨.text (by decide) huser, reason, by simp [decodeRow, hname', hchecksum', hfault, bind, Except.bind]⟩
  obtain ⟨time, htime, htime'⟩ | ⟨htime, reason, hfault⟩ := textCell_cases row 4 "applied_at"
  case inr =>
    exact .inr ⟨.text (by decide) htime, reason,
      by simp [decodeRow, hname', hchecksum', huser', hfault, bind, Except.bind]⟩
  cases hread : readTime? time with
  | some t =>
    refine .inl ⟨⟨versionOfStored (versionCell row), name, checksum, user, t⟩, ?_, rfl, hname, hchecksum, huser,
      time, htime, hread⟩
    simp [decodeRow, hname', hchecksum', huser', htime', hread, bind, Except.bind, pure, Except.pure]
  | none =>
    obtain ⟨hstrict, hplain⟩ := readTime?_eq_none.1 hread
    refine .inr ⟨.time htime hstrict hplain, s!"migration {versionCell row} has a corrupt applied_at: not a time", ?_⟩
    simp [decodeRow, hname', hchecksum', huser', htime', hread, bind, Except.bind, throw, throwThe,
      MonadExceptOf.throw]

/-- No row is both read and unreadable. -/
theorem ReadsAs.not_unreadable {r : Record} (h : ReadsAs row r) : ¬Unreadable row := by
  obtain ⟨time, htime, hread⟩ := h.appliedAt
  rintro (⟨hi, hcell⟩ | ⟨hcell, hstrict, hplain⟩)
  · simp only [textPlaces, List.mem_cons, List.not_mem_nil, or_false] at hi
    obtain rfl | rfl | rfl | rfl := hi
    · exact hcell _ h.name
    · exact hcell _ h.checksum
    · exact hcell _ h.appliedBy
    · exact hcell _ htime
  · rw [htime] at hcell
    obtain rfl := Value.text.inj hcell
    rw [readTime?_eq_none.2 ⟨hstrict, hplain⟩] at hread
    cases hread

/-! ## Row after row -/

/-- Rows are read one by one up to the first that is unreadable. -/
theorem mapM_decodeRow_cases (rows : List Row) :
    (∃ rs, rows.mapM decodeRow = .ok rs ∧ List.Forall₂ ReadsAs rows rs) ∨
      (∃ row ∈ rows, Unreadable row) ∧ ∃ reason, rows.mapM decodeRow = .error (.database reason) := by
  induction rows with
  | nil => exact .inl ⟨[], rfl, .nil⟩
  | cons row rows ih =>
    rw [List.mapM_cons]
    obtain ⟨r, hr, hreads⟩ | ⟨hbad, reason, hfault⟩ := decodeRow_cases row
    case inr =>
      rw [hfault]
      exact .inr ⟨⟨row, List.mem_cons_self, hbad⟩, reason, rfl⟩
    rw [hr]
    obtain ⟨rs, hrs, hall⟩ | ⟨⟨bad, hmem, hbad⟩, reason, hfault⟩ := ih
    · rw [hrs]
      exact .inl ⟨r :: rs, rfl, .cons hreads hall⟩
    · rw [hfault]
      exact .inr ⟨⟨bad, List.mem_cons_of_mem _ hmem, hbad⟩, reason, rfl⟩

theorem not_unreadable_of_forall₂ {rs : List Record} (h : List.Forall₂ ReadsAs rows rs) :
    ∀ row ∈ rows, ¬Unreadable row := by
  induction h with
  | nil => simp
  | cons hreads _ ih =>
    rw [List.forall_mem_cons]
    exact ⟨hreads.not_unreadable, ih⟩

/-! ## The rows of a database -/

theorem mem_sortRows : row ∈ sortRows rows ↔ row ∈ rows := List.mem_mergeSort

theorem HasRows.readRecords (h : HasRows rows db) : readRecords db = (sortRows rows).mapM decodeRow := by
  have hspelled : db.spelled? recordTable.name = some (recordTableWith rows) := Database.spelled?_of_some h rfl
  rw [Sqlite.readRecords, hspelled]
  rfl

/-- Every row is read, in the order of the stored versions, or there is a fault of the database. -/
theorem readRecords_cases (h : HasRows rows db) :
    (∃ rs, readRecords db = .ok rs ∧ List.Forall₂ ReadsAs (sortRows rows) rs) ∨
      (∃ row ∈ rows, Unreadable row) ∧ ∃ reason, readRecords db = .error (.database reason) := by
  rw [h.readRecords]
  simpa only [mem_sortRows] using mapM_decodeRow_cases (sortRows rows)

theorem readRecords_eq_error_iff (h : HasRows rows db) :
    (∃ f, readRecords db = .error f) ↔ ∃ row ∈ rows, Unreadable row := by
  obtain ⟨rs, hrs, hall⟩ | ⟨hbad, reason, hfault⟩ := readRecords_cases h
  · have hnone := not_unreadable_of_forall₂ hall
    constructor
    · rintro ⟨f, hf⟩
      rw [hrs] at hf
      cases hf
    · rintro ⟨row, hmem, hbad⟩
      exact absurd hbad (hnone row (mem_sortRows.2 hmem))
  · exact iff_of_true ⟨_, hfault⟩ hbad

end SchemaMigration.Sqlite
