import SchemaMigration.Proofs.Sql.Quiet
import SchemaMigration.Proofs.Time.StoredText
import SchemaMigration.Sqlite.Bookkeeping

/-!
# Records as rows

`ensureBookkeeping_eq`: ensuring the bookkeeping makes the tables that are not there.
`decodeRow_recordRow` : a record is read back from its row, if the year of its time has four digits.
`typed_recordRow`     : the table of records stores a record as its row.
`objection?_eq_none`  : when a table has no objection to a row.
`gainsRow_of_insert`  : an insertion that no trigger watches adds one row to the table of records.
`insert_row`          : a row is added to a table of records to which nothing leads exactly if it fits.
-/

namespace SchemaMigration.Sqlite

set_option autoImplicit false

open Sql (Database Table Row Value Draft cell sameName Apart)

/-! ## The two tables -/

def ensureTable (t : Table) (db : Database) : Database := if (db.table? t.name).isSome then db else db.create t

/-- The database with both tables. -/
def ensureTables (db : Database) : Database := ensureTable lockTable (ensureTable recordTable db)

/-- The table is there, or can be made: no index has its name. -/
def CanBeThere (t : Table) (db : Database) : Prop :=
  (db.table? t.name).isSome ∨ ∀ i ∈ db.indexes, sameName i.name t.name = false

theorem createTable_eq {t : Table} {db : Database} (ht : t = recordTable ∨ t = lockTable) (h : CanBeThere t db) :
    db.createTable true (nameOf t) t.columns = .ok (ensureTable t db) := by
  have hname : Database.reservedName? t.name = none := by
    obtain rfl | rfl := ht <;> decide
  have hcolumns : Database.columnObjection? t.name [] t.columns = none := by
    obtain rfl | rfl := ht <;> decide
  have hrows : t.rows = [] := by
    obtain rfl | rfl := ht <;> rfl
  rw [ensureTable]
  cases hthere : (db.table? t.name).isSome with
  | true => simp [Database.createTable, nameOf, hname, hthere, pure, Except.pure]
  | false =>
    have hindexes : (db.indexes.any fun i => sameName i.name t.name) = false := by
      obtain hsome | hnone := h
      · rw [hthere] at hsome
        cases hsome
      · simpa using hnone
    have hnew : (⟨t.name, t.columns, []⟩ : Table) = t := by rw [← hrows]
    simp [Database.createTable, nameOf, hname, hthere, hindexes, hcolumns, hnew, pure, Except.pure]

theorem canBeThere_ensureTable {t u : Table} {db : Database} (h : CanBeThere t db) :
    CanBeThere t (ensureTable u db) := by
  rw [ensureTable]
  split
  · exact h
  · obtain hthere | hindexes := h
    · refine .inl ?_
      rw [Database.table?, Database.create, List.find?_append]
      obtain ⟨x, hx⟩ := Option.isSome_iff_exists.1 hthere
      rw [Database.table?] at hx
      rw [hx]
      rfl
    · exact .inr hindexes

/-- Ensuring the bookkeeping makes the tables that are not there. -/
theorem ensureBookkeeping_eq {db : Database} (hrecords : CanBeThere recordTable db) (hlock : CanBeThere lockTable db) :
    ensureBookkeeping db = (.ok (), ensureTables db) := by
  rw [ensureBookkeeping, createTable_eq (.inl rfl) hrecords]
  simp only [createTable_eq (.inr rfl) (canBeThere_ensureTable hlock), ensureTables]

/-! ## Rows -/

theorem versionOfStored_storedVersion (v : Version) : versionOfStored (storedVersion v) = v := UInt64.toUInt64_toInt64 v

theorem storedVersion_inj {v w : Version} : storedVersion v = storedVersion w ↔ v = w := by
  constructor
  · intro h
    rw [← versionOfStored_storedVersion v, h, versionOfStored_storedVersion]
  · rintro rfl
    rfl

theorem decodeRow_recordRow {r : Record} (hr : r.appliedAt.IsPlain) : decodeRow (recordRow r) = .ok r := by
  have htime : readTime? r.appliedAt.stored = some r.appliedAt := by
    rw [readTime?, Time.Instant.stored, String.toList_ofList, Time.Instant.ofRfc3339?_textIn hr]
    rfl
  simp [decodeRow, recordRow, textCell, cell, versionCell, htime, versionOfStored_storedVersion, bind, Except.bind,
    pure, Except.pure]

/-- Records in the order of their stored versions. -/
def listed (rs : List Record) : List Record :=
  rs.mergeSort fun r s => storedVersion r.version ≤ storedVersion s.version

theorem mapM_decodeRow {rs : List Record} (h : ∀ r ∈ rs, r.appliedAt.IsPlain) :
    (rs.map recordRow).mapM decodeRow = .ok rs := by
  induction rs with
  | nil => rfl
  | cons r rs ih =>
    rw [List.map_cons, List.mapM_cons, decodeRow_recordRow (h r List.mem_cons_self),
      ih fun s hs => h s (List.mem_cons_of_mem _ hs)]
    rfl

theorem decode_sortRows {rs : List Record} (h : ∀ r ∈ rs, r.appliedAt.IsPlain) :
    (sortRows (rs.map recordRow)).mapM decodeRow = .ok (listed rs) := by
  have hsorted : sortRows (rs.map recordRow) = (listed rs).map recordRow :=
    (List.map_mergeSort (f := recordRow) fun _ _ _ _ => rfl).symm
  rw [hsorted]
  exact mapM_decodeRow fun r hr => h r (List.mem_mergeSort.1 hr)

/-! ## What the tables store -/

theorem stored_textColumn (t : Table) (column : String) (i : Nat) (s : String) :
    t.stored (textColumn column) i (.text s) = .ok (.text s) := by
  have haffinity : (textColumn column).affinity = .text := by
    change Sql.Affinity.ofType "TEXT" = .text
    decide
  have hplain : (textColumn column).numbersRows = false := rfl
  rw [Table.stored, hplain, if_neg Bool.false_ne_true, haffinity]
  rfl

/-- A number and four texts are stored as they are. -/
theorem typed_row {t : Table} (h : t.columns = recordTable.columns) (version : Int64)
    (name checksum user time : String) :
    t.typed [.integer version, .text name, .text checksum, .text user, .text time] =
      .ok [.integer version, .text name, .text checksum, .text user, .text time] := by
  obtain ⟨title, columns, rows⟩ := t
  subst h
  let t : Table := ⟨title, recordTable.columns, rows⟩
  have hkey : t.stored { name := "version", type := "INTEGER", key := true } 0 (.integer version) =
      .ok (.integer version) := rfl
  change List.mapM (fun p => t.stored p.1.1 p.1.2 p.2)
    [(({ name := "version", type := "INTEGER", key := true }, 0), .integer version),
      ((textColumn "name", 1), .text name), ((textColumn "checksum", 2), .text checksum),
      ((textColumn "applied_by", 3), .text user), ((textColumn "applied_at", 4), .text time)] = _
  simp only [List.mapM_cons, List.mapM_nil, hkey, stored_textColumn]
  rfl

/-- An insertion by the names of all columns gives each its value. -/
theorem spread_row {t : Table} (h : t.columns = recordTable.columns) (version : Int64)
    (name checksum user time : String) :
    Sql.spread t (some (recordTable.columns.map (·.name)))
      [.integer version, .text name, .text checksum, .text user, .text time] =
        [.integer version, .text name, .text checksum, .text user, .text time] := by
  rw [Sql.spread, h]
  rfl

theorem mapM_termValue (row : Row) : (row.map Sql.Term.literal).mapM Sql.termValue = .ok row := by
  induction row with
  | nil => rfl
  | cons v row ih =>
    rw [List.map_cons, List.mapM_cons, ih]
    rfl

/-! ## What fits into a table -/

/-- A row fits if in each column nothing is missing, not allowed, or taken. -/
theorem objection?_eq_none {t : Table} {row : Row} : t.objection? row = none ↔ ∀ p ∈ t.places,
    (p.1.notNull = true → cell row p.2 ≠ .null) ∧ p.1.allows (cell row p.2) = true ∧
      (p.1.key = true ∨ p.1.unique = true → t.has p.2 (cell row p.2) = false) := by
  have hsame {p : Sql.Column × Nat} : p ∈ t.places.filter (·.1.numbersRows) ++ t.places.reverse ↔ p ∈ t.places := by
    simp only [List.mem_append, List.mem_filter, List.mem_reverse]
    tauto
  -- a column that one of the three searches finds breaks its part of the condition
  dsimp only [Table.objection?]
  split
  · next c i hmissing =>
    have hmem := List.mem_of_find?_eq_some hmissing
    have hbad := List.find?_some hmissing
    simp only [Bool.and_eq_true, beq_iff_eq] at hbad
    exact ⟨by simp, fun hfits => absurd hbad.2 ((hfits _ hmem).1 hbad.1)⟩
  · next c i _ hwrong =>
    have hmem := List.mem_of_find?_eq_some hwrong
    have hbad := List.find?_some hwrong
    refine ⟨by simp, fun hfits => ?_⟩
    simp only [(hfits _ hmem).2.1, Bool.not_true, Bool.false_eq_true] at hbad
  · next c i _ _ htaken =>
    have hmem := hsame.1 (List.mem_of_find?_eq_some htaken)
    have hbad := List.find?_some htaken
    simp only [Bool.and_eq_true, Bool.or_eq_true] at hbad
    refine ⟨by simp, fun hfits => ?_⟩
    rw [(hfits _ hmem).2.2 hbad.1] at hbad
    exact absurd hbad.2 Bool.false_ne_true
  · next hmissing hwrong htaken =>
    rw [List.find?_eq_none] at hmissing hwrong htaken
    refine ⟨fun _ p hp => ⟨?_, ?_, ?_⟩, fun _ => rfl⟩
    · have := hmissing p hp
      simpa using this
    · have := hwrong p hp
      simpa using this
    · have := htaken p (hsame.2 hp)
      simpa using this

/-- The table of these records. -/
def recordsTable (rs : List Record) : Table := { recordTable with rows := rs.map recordRow }

theorem objection?_recordRow (rs : List Record) (r : Record) :
    (recordsTable rs).objection? (recordRow r) = none ↔ r.version ∉ rs.map (·.version) := by
  have hplaces : (recordsTable rs).places =
      [({ name := "version", type := "INTEGER", key := true }, 0), (textColumn "name", 1),
        (textColumn "checksum", 2), (textColumn "applied_by", 3), (textColumn "applied_at", 4)] := rfl
  rw [objection?_eq_none, hplaces]
  simp [recordsTable, textColumn, recordRow, cell, Table.has, Sql.Column.allows, Value.same, storedVersion_inj]

/-! ## One more record -/

/-- The database `after` has one more row in its table of records, and nothing else is different. If the table has kept
its columns, it is this row, and the table had no objection to it. -/
def GainsRow (row : Row) (before after : Database) : Prop :=
  ∃ table stored, before.table? recordTable.name = some table ∧
    after = before.put { table with rows := table.rows ++ [stored] } ∧
      (table.columns = recordTable.columns → stored = row ∧ table.objection? row = none)

/-- Where no trigger watches it, an insertion by hand adds its row. -/
theorem gainsRow_of_insert {d d' : Draft} (hquiet : d.db.watched recordTable.name .insertion = false) {version : Int64}
    {name checksum user time : String} {row : Row}
    (hrow : row = [.integer version, .text name, .text checksum, .text user, .text time])
    (h : d.insert false (insertionInto recordTable row) = .ok d') : GainsRow row d.db d'.db := by
  have hrows : (insertionInto recordTable row).rows = [row.map Sql.Term.literal] := rfl
  obtain ⟨table, values, stored, htable, hvalues, htyped, hfits, hput⟩ := Draft.insert_unwatched hrows hquiet h
  refine ⟨table, stored, htable, hput, fun hcolumns => ?_⟩
  obtain rfl := Except.ok.inj ((mapM_termValue row).symm.trans hvalues)
  rw [insertionInto, hrow, spread_row hcolumns, typed_row hcolumns, ← hrow] at htyped
  obtain rfl := Except.ok.inj htyped
  exact ⟨rfl, hfits⟩

/-- In a table of records to which nothing leads, a row is added by hand exactly if it fits. -/
theorem insert_row {d : Draft} {t : Table} (h : Apart recordTable.name d.db) (hkept : d.tally.immediate ≤ 0)
    (ht : d.db.table? recordTable.name = some t) (hcolumns : t.columns = recordTable.columns) (version : Int64)
    (name checksum user time : String) :
    let row : Row := [.integer version, .text name, .text checksum, .text user, .text time]
    d.insert false (insertionInto recordTable row) =
      match t.objection? row with
      | some r => .error r
      | none => .ok ⟨d.db.put { t with rows := t.rows ++ [row] }, d.tally, d.changed + 1⟩ := by
  intro row
  have hrefs : Database.references t = [] := by
    rw [Database.references, Table.places, hcolumns]
    rfl
  have hknown : (recordTable.columns.map (·.name)).find? (fun n => !recordTable.columns.any fun c => sameName c.name n) =
      none := by
    decide
  have hshape : Sql.shapeObjection? t (insertionInto recordTable row) = none := by
    simp only [Sql.shapeObjection?, insertionInto, Option.getD_some, hcolumns, hknown]
    rfl
  have htyped : t.typed (Sql.spread t (insertionInto recordTable row).columns row) = .ok row := by
    rw [insertionInto, spread_row hcolumns, typed_row hcolumns]
  have hrows : (insertionInto recordTable row).rows = [row.map Sql.Term.literal] := rfl
  have hname : sameName (insertionInto recordTable row).table.name recordTable.name = true := Sql.sameName_self recordTable.name
  exact Draft.insert_of_apart h hrefs hkept hname ht hrows hshape (mapM_termValue row) htyped false

end SchemaMigration.Sqlite
