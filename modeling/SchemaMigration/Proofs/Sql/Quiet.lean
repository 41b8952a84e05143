import SchemaMigration.Proofs.Sql.Frame

/-!
# Rows of tables that nothing watches

`Draft.insert_unwatched` : an insertion that no trigger watches adds one row and does nothing else.
`Draft.insert_of_apart`  : in a table to which nothing leads, a row is added exactly if the table has no objection to it.
`Draft.delete_eq`        : out of such a table rows are taken one after another.

A table to which nothing leads, and which refers to nothing, has no part in the references that are broken or mended.
-/

namespace SchemaMigration.Sql

set_option autoImplicit false

variable {name : String} {db : Database} {t : Table}

/-! ## Tables without triggers -/

namespace Database

theorem reactionsTo_of_unwatched {table : String} {occasion : Occasion} (h : db.watched table occasion = false)
    (atWork : List String) (before : Bool) : db.reactionsTo atWork before table occasion = [] := by
  rw [reactionsTo, List.reverse_eq_nil_iff, List.filter_eq_nil_iff]
  intro g hg hfires
  have hnone := List.any_eq_false.1 h g hg
  simp only [Bool.and_eq_true] at hfires hnone
  exact hnone ⟨hfires.1.1.1, hfires.1.2⟩

/-- Nothing fires for a table that no trigger names. -/
theorem watched_of_apart (h : Apart name db) {table : String} (htable : sameName table name = true)
    (occasion : Occasion) : db.watched table occasion = false := by
  rw [watched, List.any_eq_false]
  intro g hg hstands
  have hname := h.triggers g hg g.table List.mem_cons_self
  rw [Bool.and_eq_true] at hstands
  rw [sameName_congr hstands.1, htable] at hname
  cases hname

end Database

/-! ## Rows that come -/

/-- The table has an objection to a row only if the row conflicts with it. -/
theorem isConflict_of_objection {row : Row} {r : Refusal} (h : t.objection? row = some r) : r.isConflict = true := by
  dsimp only [Table.objection?] at h
  split at h
  · rw [← Option.some.inj h]
    rfl
  · rw [← Option.some.inj h]
    rfl
  · rw [← Option.some.inj h]
    rfl
  · cases h

namespace Draft

section

variable {fire : Firing} {atWork : List String} {d : Draft} {table : String} {values : List Value} {row : Row}

theorem fireAll_of_unwatched {occasion : Occasion} (h : d.db.watched table occasion = false) (before : Bool) :
    d.fireAll fire atWork before table occasion = .ok d := by
  rw [fireAll, Database.reactionsTo_of_unwatched h]
  rfl

/-- A row that no trigger watches comes if the table has no objection to it, or else is refused or passed over. -/
theorem addRow_of_unwatched (hquiet : d.db.watched table .insertion = false) (ht : d.db.table? table = some t)
    (htyped : t.typed values = .ok row) (ignore alone : Bool) : addRow fire atWork ignore alone table values d =
      match t.objection? row with
      | some r => if ignore then .ok d else .error r
      | none => .ok (d.arrive atWork alone t row) := by
  have htable : d.db.table table = .ok t := by rw [Database.table, ht]
  simp only [addRow, htable, htyped, fireAll_of_unwatched hquiet, Table.fit, bind, Except.bind]
  cases hfits : t.objection? row with
  | some r =>
    simp only [throw, throwThe, MonadExceptOf.throw, isConflict_of_objection hfits, Bool.and_true]
    rfl
  | none =>
    have hafter : (d.arrive atWork alone t row).db.watched table .insertion = false := hquiet
    exact fireAll_of_unwatched hafter false

theorem removeRow_of_unwatched (hquiet : d.db.watched table .deletion = false) (ht : d.db.table? table = some t)
    {there : Row} (hthere : t.rows.find? (t.isRow row) = some there) :
    removeRow fire atWork table row d = .ok (d.depart atWork t row there) := by
  have htable : d.db.table table = .ok t := by rw [Database.table, ht]
  simp only [removeRow, htable, fireAll_of_unwatched hquiet, hthere, bind, Except.bind]
  have hafter : (d.depart atWork t row there).db.watched table .deletion = false := hquiet
  exact fireAll_of_unwatched hafter false

end

variable {d d' : Draft} {i : Insertion} {terms : List Term}

theorem insert_of_none (h : d.db.table? i.table.name = none) (ignore : Bool) :
    d.insert ignore i = .error (.noTable i.table.name) := by
  have hfor : d.db.tableFor [] i.table.name = .error (.noTable i.table.name) := by
    rw [Database.tableFor, h]
    rfl
  cases hdepth : d.db.triggers.length <;>
    simp [insert, changeRows, hdepth, Database.objection?, Database.reactionObjection?, Database.insertionObjection?, hfor]

theorem delete_of_none {n : Name} (h : d.db.table? n.name = none) (p : Row → Bool) :
    d.delete n p = .error (.noTable n.name) := by
  have hfor : d.db.tableFor [] n.name = .error (.noTable n.name) := by
    rw [Database.tableFor, h]
    rfl
  cases hdepth : d.db.triggers.length <;>
    simp [delete, changeRows, hdepth, Database.objection?, Database.reactionObjection?, Database.deletionObjection?, hfor]

/-- An insertion of one row that no trigger watches adds the row, as the table stores it, and does nothing else. The table
has no objection to the row. -/
theorem insert_unwatched (hrows : i.rows = [terms]) (hquiet : d.db.watched i.table.name .insertion = false)
    (h : d.insert false i = .ok d') :
    ∃ t values row, d.db.table? i.table.name = some t ∧ terms.mapM termValue = .ok values ∧
      t.typed (spread t i.columns values) = .ok row ∧ t.objection? row = none ∧
        d'.db = d.db.put { t with rows := t.rows ++ [row] } := by
  obtain ⟨t, ht, h⟩ := bind_eq_ok (changeRows_eq_ok h)
  obtain ⟨rows, hall, h⟩ := bind_eq_ok h
  have ht := Database.tableFor_eq_ok ht
  rw [hrows, List.mapM_cons, List.mapM_nil] at hall
  obtain ⟨values, hvalues, hrest⟩ := bind_eq_ok hall
  obtain rfl := Except.ok.inj hrest
  rw [List.foldlM_cons] at h
  obtain ⟨a, hadd, hlast⟩ := bind_eq_ok h
  obtain rfl := Except.ok.inj hlast
  obtain ⟨t', ht', hadd'⟩ := bind_eq_ok hadd
  obtain ⟨row, htyped, -⟩ := bind_eq_ok hadd'
  obtain rfl := Option.some.inj (ht.symm.trans (Database.table_eq_ok ht'))
  rw [addRow_of_unwatched hquiet ht htyped] at hadd
  split at hadd
  · cases hadd
  · next hfits =>
    refine ⟨t, values, row, ht, hvalues, htyped, hfits, ?_⟩
    rw [← Except.ok.inj hadd]
    rfl

end Draft

/-! ## Tables to which nothing leads -/

namespace Database

theorem mem_references {r : Reference} {i : Nat} (h : (r, i) ∈ references t) :
    ∃ c ∈ t.columns, c.reference = some r := by
  obtain ⟨⟨c, j⟩, hc, hr⟩ := List.mem_filterMap.1 (List.mem_reverse.1 h)
  obtain ⟨r', hr', heq⟩ := Option.map_eq_some_iff.1 hr
  obtain ⟨rfl, -⟩ := Prod.mk.inj heq
  exact ⟨c, (List.mem_zipIdx hc).2.2 ▸ List.getElem_mem _, hr'⟩

theorem referencesTo_of_apart (h : Apart name db) {table : String} (htable : sameName table name = true) :
    db.referencesTo table = [] := by
  rw [referencesTo, List.flatMap_eq_nil_iff]
  intro child hchild
  rw [List.map_eq_nil_iff, List.filter_eq_nil_iff]
  rintro ⟨r, j⟩ hr hleads
  obtain ⟨c, hc, href⟩ := mem_references hr
  have hname := h.columns child (List.mem_reverse.1 hchild) c hc r.table (by simp [Column.names, href])
  rw [sameName_congr hleads, htable] at hname
  cases hname

/-- A row of such a table breaks nothing and mends nothing when it comes. -/
theorem tallyArrival_of_apart (h : Apart name db) (ht : sameName t.name name = true) (hrefs : references t = [])
    (alone : Bool) (row : Row) (c : Tally) : db.tallyArrival alone t row c = c := by
  rw [tallyArrival, hrefs, referencesTo_of_apart h ht]
  rfl

/-- Nor does it when it goes. -/
theorem tallyDeparture_of_apart (h : Apart name db) (ht : sameName t.name name = true) (hrefs : references t = [])
    (row there : Row) (c : Tally) : db.tallyDeparture t row there c = c := by
  rw [tallyDeparture, hrefs, referencesTo_of_apart h ht]
  rfl

theorem danglingReference?_of_references (hrefs : references t = []) : db.danglingReference? t = none := by
  rw [danglingReference?, hrefs]
  rfl

theorem keylessReference?_of_apart (h : Apart name db) (ht : sameName t.name name = true) (deferredOnly : Bool) :
    db.keylessReference? t deferredOnly = none := by
  rw [keylessReference?, referencesTo_of_apart h ht]
  rfl

theorem firingObjection?_of_apart (h : Apart name db) {table : String} (htable : sameName table name = true)
    (inner : List String → Reaction → Option Refusal) (atWork : List String) (occasion : Occasion) :
    db.firingObjection? inner atWork table occasion = none := by
  have hquiet := watched_of_apart h htable occasion
  rw [firingObjection?, reactionsTo_of_unwatched hquiet, reactionsTo_of_unwatched hquiet]
  rfl

end Database

/-- A row is the one that it is. -/
theorem Table.isRow_self (t : Table) {row : Row} : t.isRow row row = true := by
  unfold isRow
  split <;> exact beq_self_eq_true _

namespace Draft

theorem checked_of_kept {d : Draft} (h : d.tally.immediate ≤ 0) : d.checked = .ok d := if_neg (Int.not_lt.2 h)

section

variable {d : Draft} (h : Apart name d.db) (hrefs : Database.references t = []) (hkept : d.tally.immediate ≤ 0)

include h hrefs hkept

/-- In a table to which nothing leads, a row is added exactly if the table has no objection to it. -/
theorem insert_of_apart {i : Insertion} {terms : List Term} {values : List Value} {row : Row}
    (hname : sameName i.table.name name = true) (ht : d.db.table? i.table.name = some t) (hrows : i.rows = [terms])
    (hshape : shapeObjection? t i = none) (hvalues : terms.mapM termValue = .ok values)
    (htyped : t.typed (spread t i.columns values) = .ok row) (ignore : Bool) : d.insert ignore i =
      match t.objection? row with
      | some r => if ignore then .ok d else .error r
      | none => .ok ⟨d.db.put { t with rows := t.rows ++ [row] }, d.tally, d.changed + 1⟩ := by
  have htname : sameName t.name name = true := (sameName_congr (Database.table?_eq_some ht).2 name).trans hname
  have hfor : d.db.tableFor [] i.table.name = .ok t := by rw [Database.tableFor, ht]
  have hall : i.rows.mapM (fun row => row.mapM termValue) = .ok [values] := by
    rw [hrows, List.mapM_cons, hvalues]
    rfl
  have hobjection : d.db.objection? d.db.triggers.length [] (.insert i) = none := by
    cases d.db.triggers.length <;>
      simp [Database.objection?, Database.reactionObjection?, Database.insertionObjection?, hfor, hall, hshape,
        Database.danglingReference?_of_references hrefs, Database.keylessReference?_of_apart h htname,
        Database.firingObjection?_of_apart h hname]
  have hquiet := Database.watched_of_apart h hname .insertion
  simp only [insert, changeRows, hobjection, addRows, hfor, hall, bind, Except.bind, List.foldlM_cons, List.foldlM_nil,
    addRow_of_unwatched hquiet ht htyped]
  cases t.objection? row with
  | some r =>
    cases ignore with
    | true => exact checked_of_kept hkept
    | false => rfl
  | none =>
    have htally := Database.tallyArrival_of_apart h htname hrefs
    simp only [arrive, change, htally]
    exact checked_of_kept hkept

omit hkept in
/-- A deletion in such a table takes out its rows one after another. -/
theorem delete_eq {n : Name} (hname : sameName n.name name = true) (ht : d.db.table? n.name = some t)
    (p : Row → Bool) : d.delete n p = (t.rows.filter p).foldlM
      (fun a row => removeRow (firing d.db.triggers.length false []) [] n.name row a) d >>= checked := by
  have htname : sameName t.name name = true := (sameName_congr (Database.table?_eq_some ht).2 name).trans hname
  have hfor : d.db.tableFor [] n.name = .ok t := by rw [Database.tableFor, ht]
  have hobjection : d.db.objection? d.db.triggers.length [] (.delete n) = none := by
    cases d.db.triggers.length <;>
      simp [Database.objection?, Database.reactionObjection?, Database.deletionObjection?, hfor,
        Database.danglingReference?_of_references hrefs, Database.keylessReference?_of_apart h htname,
        Database.firingObjection?_of_apart h hname]
  simp only [delete, changeRows, hobjection, removeRows, hfor, bind, Except.bind]

/-- Where no row of such a table is to be removed, nothing happens. -/
theorem delete_none_of_apart {n : Name} {p : Row → Bool} (hname : sameName n.name name = true)
    (ht : d.db.table? n.name = some t) (hrows : t.rows.filter p = []) : d.delete n p = .ok d := by
  rw [delete_eq h hrefs hname ht, hrows]
  exact checked_of_kept hkept

/-- The one row of such a table is removed. -/
theorem delete_only_of_apart {n : Name} {p : Row → Bool} (hname : sameName n.name name = true)
    (ht : d.db.table? n.name = some t) {row : Row} (hrows : t.rows = [row]) (hp : p row = true) :
    d.delete n p = .ok ⟨d.db.put { t with rows := [] }, d.tally, d.changed + 1⟩ := by
  have htname : sameName t.name name = true := (sameName_congr (Database.table?_eq_some ht).2 name).trans hname
  have hthere : t.rows.find? (t.isRow row) = some row := by
    rw [hrows, List.find?_cons_of_pos t.isRow_self]
  have htally := Database.tallyDeparture_of_apart h htname hrefs row row d.tally
  have hquiet := Database.watched_of_apart h hname .deletion
  rw [delete_eq h hrefs hname ht, hrows, List.filter_cons_of_pos hp, List.filter_nil, List.foldlM_cons,
    removeRow_of_unwatched hquiet ht hthere, depart, change, htally, hrows, List.erase_cons_head]
  exact checked_of_kept hkept

end

end Draft

end SchemaMigration.Sql
