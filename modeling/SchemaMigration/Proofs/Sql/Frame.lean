import SchemaMigration.Proofs.Sql.Published

/-!
# Tables that a statement does not name

`Statement.names`  : the tables that a statement names.
`Database.named`   : the tables of a name, of which a database has one at most.
`Apart`            : nothing in a database leads to a table of that name.
`Spares`           : the tables of a name are as before, and nothing leads to them.
`FiringSpares`     : what triggers do spares a table that they do not name.
`Draft.spares_exec`: a statement that does not name a table spares it, and so do the triggers that it fires.
-/

namespace SchemaMigration.Sql

set_option autoImplicit false

/-! ## Names -/

theorem sameName_iff {a b : String} : sameName a b = true ↔ Text.lowerAscii a.toList = Text.lowerAscii b.toList := by
  rw [sameName, Text.sameIgnoringCase, beq_iff_eq]

theorem sameName_congr {a b : String} (h : sameName a b = true) (c : String) : sameName a c = sameName b c := by
  rw [sameName, sameName, Text.sameIgnoringCase, Text.sameIgnoringCase, sameName_iff.1 h]

theorem sameName_comm (a b : String) : sameName a b = sameName b a := by
  rw [Bool.eq_iff_iff, sameName_iff, sameName_iff, eq_comm]

theorem sameName_self (a : String) : sameName a a = true := sameName_iff.2 rfl

/-! ## Vocabulary -/

/-- The tables that a column names, which is the one that it refers to. -/
def Column.names (c : Column) : List String := (c.reference.map (·.table)).toList

/-- The tables that a reaction names; names in updates and questions all count. -/
def Reaction.names : Reaction → List String
  | insert i => [i.table.name]
  | delete n => [n.name]
  | refuse _ => []
  | other names => names

/-- The tables that a trigger names: the one that it stands on, and those of its reactions. -/
def Trigger.names (g : Trigger) : List String := g.table :: g.reactions.flatMap Reaction.names

def Statement.names : Statement → List String
  | createTable _ n columns => n.name :: columns.flatMap Column.names
  | addColumn n c => n.name :: c.names
  | createTrigger _ n _ _ rs => n.name :: rs.flatMap Reaction.names
  | dropTable _ n | createIndex _ n _ | delete n => [n.name]
  | insert i => [i.table.name]
  | select _ | beginTransaction | commit | rollback => []

/-- None of the names is that name. -/
def Avoids (name : String) (names : List String) : Prop := ∀ n ∈ names, sameName n name = false

instance (name : String) (names : List String) : Decidable (Avoids name names) :=
  inferInstanceAs (Decidable (∀ n ∈ names, sameName n name = false))

def Database.named (db : Database) (name : String) : List Table := db.tables.filter fun t => sameName t.name name

/-- Nothing in the database leads to a table of that name: no column refers to it, and no trigger names it. -/
structure Apart (name : String) (db : Database) : Prop where
  columns : ∀ t ∈ db.tables, ∀ c ∈ t.columns, Avoids name c.names
  triggers : ∀ g ∈ db.triggers, Avoids name g.names

/-- The tables of that name are as before, and nothing leads to them. -/
structure Spares (name : String) (before after : Database) : Prop where
  named : after.named name = before.named name
  apart : Apart name after

variable {name : String} {db db' : Database}

theorem Apart.spares (h : Apart name db) : Spares name db db := ⟨rfl, h⟩

theorem Spares.trans {a b c : Database} (h : Spares name a b) (h' : Spares name b c) : Spares name a c :=
  ⟨h'.named.trans h.named, h'.apart⟩

/-! ## Tables by name -/

namespace Database

theorem table?_eq_head? (db : Database) (name : String) : db.table? name = (db.named name).head? := by
  rw [table?, named, List.head?_filter]

theorem table?_congr (h : db'.named name = db.named name) : db'.table? name = db.table? name := by
  rw [table?_eq_head?, table?_eq_head?, h]

theorem table?_of_named {t : Table} (h : db.named name = [t]) : db.table? name = some t := by
  rw [table?_eq_head?, h, List.head?_cons]

theorem table?_of_named_nil (h : db.named name = []) : db.table? name = none := by
  rw [table?_eq_head?, h, List.head?_nil]

theorem spelled?_of_some {t : Table} (h : db.table? name = some t) (ht : t.name = name) :
    db.spelled? name = some t := by
  rw [spelled?, h, Option.filter_some, ht, if_pos (beq_self_eq_true name)]

theorem spelled?_of_none (h : db.table? name = none) : db.spelled? name = none := by
  rw [spelled?, h, Option.filter_none]

theorem table?_eq_some {t : Table} (h : db.table? name = some t) : t ∈ db.tables ∧ sameName t.name name = true :=
  ⟨List.mem_of_find?_eq_some h, by simpa using List.find?_some h⟩

theorem tableFor_eq_ok {atWork : List String} {t : Table} (h : db.tableFor atWork name = .ok t) :
    db.table? name = some t := by
  unfold tableFor at h
  split at h
  · next hfound =>
    rw [hfound, Except.ok.inj h]
  · simp at h

theorem table_eq_ok {t : Table} (h : db.table name = .ok t) : db.table? name = some t := by
  unfold table at h
  split at h
  · next hfound =>
    rw [hfound, Except.ok.inj h]
  · simp at h

theorem named_put_of_ne {t : Table} (h : sameName t.name name = false) : (db.put t).named name = db.named name := by
  unfold put named
  induction db.tables with
  | nil => rfl
  | cons x xs ih =>
    rw [List.map_cons, List.filter_cons, List.filter_cons, ih]
    by_cases hx : sameName x.name t.name = true
    · rw [if_pos hx, sameName_congr hx, h]
      rfl
    · rw [if_neg hx]

theorem named_put_same {t : Table} (h : sameName t.name name = true) :
    (db.put t).named name = (db.named name).map fun _ => t := by
  unfold put named
  induction db.tables with
  | nil => rfl
  | cons x xs ih =>
    rw [List.map_cons, List.filter_cons, List.filter_cons, ih]
    by_cases hx : sameName x.name t.name = true
    · rw [if_pos hx, sameName_congr hx, h]
      rfl
    · have hx' : sameName x.name name = false := by
        rwa [← Bool.not_eq_true, sameName_comm, ← sameName_congr h, sameName_comm]
      rw [if_neg hx, hx']
      rfl

theorem put_self {t : Table} (ht : sameName t.name name = true) (h : db.named name = [t]) : db.put t = db := by
  have htables : db.tables.map (fun x => if sameName x.name t.name then t else x) = db.tables := by
    refine (List.map_congr_left fun x hx => ?_).trans (List.map_id _)
    split
    · next hx' =>
      have hmem : x ∈ db.named name := List.mem_filter.2 ⟨hx, (sameName_congr hx' name).trans ht⟩
      rw [h] at hmem
      exact (List.mem_singleton.1 hmem).symm
    · rfl
  rw [put, htables]

/-- Of two tables of one name that are put one after the other, the second counts. -/
theorem put_put {t u : Table} (h : sameName t.name u.name = true) : (db.put t).put u = db.put u := by
  have hmap : ∀ x : Table, (fun y : Table => if sameName y.name u.name then u else y)
      (if sameName x.name t.name then t else x) = if sameName x.name u.name then u else x := by
    intro x
    by_cases hx : sameName x.name t.name = true
    · have hx' : sameName x.name u.name = true := (sameName_congr hx u.name).trans h
      simp only [if_pos hx, if_pos h, if_pos hx']
    · simp only [if_neg hx]
  simp only [put, List.map_map, Function.comp_def, hmap]

theorem named_create (db : Database) (t : Table) (name : String) :
    (db.create t).named name = db.named name ++ if sameName t.name name then [t] else [] := by
  rw [named, create, List.filter_append, List.filter_cons]
  rfl

theorem mem_tables_put {t x : Table} (h : x ∈ (db.put t).tables) : x = t ∨ x ∈ db.tables := by
  obtain ⟨y, hy, rfl⟩ := List.mem_map.1 h
  split
  · exact .inl rfl
  · exact .inr hy

end Database

/-! ## Changes of tables -/

theorem Apart.apart_put (h : Apart name db) {t : Table} (hcolumns : ∀ c ∈ t.columns, Avoids name c.names) :
    Apart name (db.put t) where
  columns := fun x hx => by
    obtain rfl | hx := Database.mem_tables_put hx
    · exact hcolumns
    · exact h.columns x hx
  triggers := h.triggers

theorem Apart.put (h : Apart name db) {t : Table} (hname : sameName t.name name = false)
    (hcolumns : ∀ c ∈ t.columns, Avoids name c.names) : Spares name db (db.put t) :=
  ⟨Database.named_put_of_ne hname, h.apart_put hcolumns⟩

theorem Apart.apart_create (h : Apart name db) {t : Table} (hcolumns : ∀ c ∈ t.columns, Avoids name c.names) :
    Apart name (db.create t) where
  columns := fun x hx => by
    obtain hx | hx := List.mem_append.1 hx
    · exact h.columns x hx
    · rw [List.mem_singleton.1 hx]
      exact hcolumns
  triggers := h.triggers

theorem Apart.create (h : Apart name db) {t : Table} (hname : sameName t.name name = false)
    (hcolumns : ∀ c ∈ t.columns, Avoids name c.names) : Spares name db (db.create t) where
  named := by
    rw [Database.named_create, hname]
    exact List.append_nil _
  apart := h.apart_create hcolumns

theorem Apart.remove (h : Apart name db) {other : String} (hother : sameName other name = false) :
    Spares name db (db.remove other) where
  named := by
    rw [Database.named, Database.remove, List.filter_filter]
    refine List.filter_congr fun t _ => ?_
    by_cases ht : sameName t.name name = true
    · rw [sameName_congr ht other, sameName_comm name other, hother, ht]
      rfl
    · simp [ht]
  apart := {
    columns := fun x hx => h.columns x (List.mem_filter.1 hx).1
    triggers := fun g hg => h.triggers g (List.mem_filter.1 hg).1 }

/-! ## Changes of rows -/

theorem Database.mem_reactionsTo {atWork : List String} {before : Bool} {table : String} {occasion : Occasion}
    {g : Trigger} (h : g ∈ db.reactionsTo atWork before table occasion) : g ∈ db.triggers :=
  (List.mem_filter.1 (List.mem_reverse.1 h)).1

/-- Steps that spare a table spare it together. -/
theorem spares_foldlM {α : Type} {f : Draft → α → Except Refusal Draft} {xs : List α} {d d' : Draft}
    (hf : ∀ x ∈ xs, ∀ a b, Apart name a.db → f a x = .ok b → Spares name a.db b.db) (h : Apart name d.db)
    (hrun : xs.foldlM f d = .ok d') : Spares name d.db d'.db := by
  induction xs generalizing d with
  | nil =>
    obtain rfl := Except.ok.inj hrun
    exact h.spares
  | cons x xs ih =>
    rw [List.foldlM_cons] at hrun
    obtain ⟨a, hx, hrest⟩ := bind_eq_ok hrun
    have hfirst := hf x List.mem_cons_self d a h hx
    exact hfirst.trans (ih (fun y hy => hf y (List.mem_cons_of_mem _ hy)) hfirst.apart hrest)

/-- What triggers do spares a table that they do not name. -/
def FiringSpares (name : String) (fire : Firing) : Prop :=
  ∀ g d d', Avoids name g.names → Apart name d.db → fire g d = .ok d' → Spares name d.db d'.db

namespace Draft

section

variable {fire : Firing} {atWork : List String} {d d' : Draft} {table : String}

theorem spares_fireAll (hfire : FiringSpares name fire) {before : Bool} {occasion : Occasion} (h : Apart name d.db)
    (hrun : d.fireAll fire atWork before table occasion = .ok d') : Spares name d.db d'.db :=
  spares_foldlM (fun g hg a b => hfire g a b (h.triggers g (Database.mem_reactionsTo hg))) h hrun

theorem spares_change (h : Apart name d.db) (htable : sameName table name = false) {t : Table}
    (ht : d.db.table? table = some t) (rows : List Row) (tally : Tally) :
    Spares name d.db (d.change atWork t rows tally).db := by
  obtain ⟨hmem, hsame⟩ := Database.table?_eq_some ht
  exact h.put ((sameName_congr hsame name).trans htable) (h.columns t hmem)

theorem spares_addRow (hfire : FiringSpares name fire) (htable : sameName table name = false) {ignore alone : Bool}
    {values : List Value} (h : Apart name d.db) (hrun : addRow fire atWork ignore alone table values d = .ok d') :
    Spares name d.db d'.db := by
  obtain ⟨_, _, hrun⟩ := bind_eq_ok hrun
  obtain ⟨_, _, hrun⟩ := bind_eq_ok hrun
  obtain ⟨a, hbefore, hrun⟩ := bind_eq_ok hrun
  obtain ⟨t, ht, hrun⟩ := bind_eq_ok hrun
  have hfirst := spares_fireAll hfire h hbefore
  split at hrun
  · next row _ =>
    have hput : Spares name a.db (a.arrive atWork alone t row).db :=
      spares_change hfirst.apart htable (Database.table_eq_ok ht) _ _
    exact hfirst.trans (hput.trans (spares_fireAll hfire hput.apart hrun))
  · split at hrun
    · obtain rfl := Except.ok.inj hrun
      exact hfirst
    · cases hrun

theorem spares_removeRow (hfire : FiringSpares name fire) (htable : sameName table name = false) {row : Row}
    (h : Apart name d.db) (hrun : removeRow fire atWork table row d = .ok d') : Spares name d.db d'.db := by
  obtain ⟨a, hbefore, hrun⟩ := bind_eq_ok hrun
  obtain ⟨t, ht, hrun⟩ := bind_eq_ok hrun
  have hfirst := spares_fireAll hfire h hbefore
  split at hrun
  · next there _ =>
    have hput : Spares name a.db (a.depart atWork t row there).db :=
      spares_change hfirst.apart htable (Database.table_eq_ok ht) _ _
    exact hfirst.trans (hput.trans (spares_fireAll hfire hput.apart hrun))
  · obtain rfl := Except.ok.inj hrun
    exact hfirst

theorem spares_addRows (hfire : FiringSpares name fire) {ignore : Bool} {i : Insertion}
    (hi : sameName i.table.name name = false) (h : Apart name d.db) (hrun : addRows fire atWork ignore i d = .ok d') :
    Spares name d.db d'.db := by
  obtain ⟨t, -, hrun⟩ := bind_eq_ok hrun
  obtain ⟨rows, -, hrun⟩ := bind_eq_ok hrun
  exact spares_foldlM (fun _ _ _ _ => spares_addRow hfire hi) h hrun

theorem spares_removeRows (hfire : FiringSpares name fire) (htable : sameName table name = false) {p : Row → Bool}
    (h : Apart name d.db) (hrun : removeRows fire atWork table p d = .ok d') : Spares name d.db d'.db := by
  obtain ⟨t, -, hrun⟩ := bind_eq_ok hrun
  exact spares_foldlM (fun _ _ _ _ => spares_removeRow hfire htable) h hrun

theorem spares_react (hfire : FiringSpares name fire) {ignore : Bool} {r : Reaction} (hr : Avoids name r.names)
    (h : Apart name d.db) (hrun : react fire atWork ignore r d = .ok d') : Spares name d.db d'.db := by
  cases r with
  | insert i => exact spares_addRows hfire (hr _ List.mem_cons_self) h hrun
  | delete n => exact spares_removeRows hfire (hr _ List.mem_cons_self) h hrun
  | refuse reason => cases hrun
  | other names =>
    obtain rfl := Except.ok.inj hrun
    exact h.spares

end

/-- What a trigger does spares a table that it does not name, whatever triggers it fires in turn. -/
theorem firingSpares (depth : Nat) (ignore : Bool) (atWork : List String) :
    FiringSpares name (firing depth ignore atWork) := by
  -- on the depth: what a trigger sets off is one level deeper
  induction depth generalizing ignore atWork with
  | zero =>
    intro g d d' _ h hrun
    obtain rfl := Except.ok.inj hrun
    exact h.spares
  | succ depth ih =>
    intro g d d' hg h hrun
    refine spares_foldlM (fun r hr a b ha hab => spares_react (ih _ _) (fun n hn => hg n ?_) ha hab) h hrun
    exact List.mem_cons_of_mem _ (List.mem_flatMap.2 ⟨r, hr, hn⟩)

variable {d d' : Draft}

theorem checked_eq_ok (h : d.checked = .ok d') : d' = d := by
  unfold checked at h
  split at h
  · cases h
  · exact (Except.ok.inj h).symm

/-- Without an objection, a change of rows is what its rows come to, which breaks no reference. -/
theorem changeRows_eq_ok {r : Reaction} {ignore : Bool} {f : Firing → Draft → Except Refusal Draft}
    (h : d.changeRows r ignore f = .ok d') : f (firing d.db.triggers.length ignore []) d = .ok d' := by
  unfold changeRows at h
  split at h
  · cases h
  · obtain ⟨a, ha, hchecked⟩ := bind_eq_ok h
    rwa [checked_eq_ok hchecked]

theorem spares_insert {ignore : Bool} {i : Insertion} (hi : sameName i.table.name name = false) (h : Apart name d.db)
    (hrun : d.insert ignore i = .ok d') : Spares name d.db d'.db :=
  spares_addRows (firingSpares _ _ _) hi h (changeRows_eq_ok hrun)

theorem spares_delete {n : Name} {p : Row → Bool} (hn : sameName n.name name = false) (h : Apart name d.db)
    (hrun : d.delete n p = .ok d') : Spares name d.db d'.db :=
  spares_removeRows (firingSpares _ _ _) hn h (changeRows_eq_ok hrun)

end Draft

/-! ## Changes of the schema -/

theorem ok_of_check {α : Type} {p : Prop} [Decidable p] {r : Refusal} {x : Except Refusal α} {a : α}
    (h : (if p then .error r else x) = .ok a) : x = .ok a := by
  split at h
  · simp at h
  · exact h

theorem ok_of_objection {α : Type} {o : Option Refusal} {x : Except Refusal α} {a : α}
    (h : (match o with | some r => Except.error r | _ => x) = .ok a) : x = .ok a := by
  cases o with
  | some r => cases h
  | none => exact h

namespace Database

theorem createTable_eq_ok {ifNotExists : Bool} {n : Name} {columns : List Column}
    (h : db.createTable ifNotExists n columns = .ok db') : db' = db ∨ db' = db.create ⟨n.name, columns, []⟩ := by
  simp only [createTable, bind, Except.bind, throw, throwThe, MonadExceptOf.throw, pure, Except.pure] at h
  have h := ok_of_objection h
  split at h
  · split at h
    · exact .inl (Except.ok.inj h).symm
    · simp at h
  · have h := ok_of_objection (ok_of_check h)
    exact .inr (Except.ok.inj h).symm

theorem addColumn_eq_ok {n : Name} {c : Column} (h : db.addColumn n c = .ok db') :
    ∃ t rows, db.table? n.name = some t ∧ db' = db.put { t with columns := t.columns ++ [c], rows } := by
  obtain ⟨t, ht, h⟩ := bind_eq_ok h
  simp only [bind, Except.bind, throw, throwThe, MonadExceptOf.throw, pure, Except.pure] at h
  have h := ok_of_check (ok_of_check (ok_of_check (ok_of_check (ok_of_check (ok_of_check (ok_of_check h))))))
  exact ⟨t, _, table_eq_ok ht, (Except.ok.inj h).symm⟩

theorem createIndex_eq_ok {index n : Name} {columns : List Name} (h : db.createIndex index n columns = .ok db') :
    ∃ indexes, db' = { db with indexes } := by
  cases ht : db.table? n.name with
  | none => simp [createIndex, ht, bind, Except.bind, throw, throwThe, MonadExceptOf.throw] at h
  | some t =>
    simp only [createIndex, ht, bind, Except.bind, throw, throwThe, MonadExceptOf.throw, pure, Except.pure] at h
    have h := ok_of_check (ok_of_check (ok_of_objection h))
    split at h
    · simp at h
    · exact ⟨_, (Except.ok.inj h).symm⟩

theorem createTrigger_eq_ok {trigger n : Name} {moment : Moment} {occasion : Occasion} {rs : List Reaction}
    (h : db.createTrigger trigger n moment occasion rs = .ok db') :
    ∃ t, db.table? n.name = some t ∧
      db' = { db with triggers := db.triggers ++ [⟨trigger.name, t.name, moment == .before, occasion, rs⟩] } := by
  cases ht : db.table? n.name with
  | none => simp [createTrigger, ht, bind, Except.bind, throw, throwThe, MonadExceptOf.throw] at h
  | some t =>
    simp only [createTrigger, ht, bind, Except.bind, throw, throwThe, MonadExceptOf.throw, pure, Except.pure] at h
    exact ⟨t, rfl, (Except.ok.inj (ok_of_check (ok_of_check (ok_of_objection h)))).symm⟩

end Database

namespace Draft

variable {d d' : Draft}

theorem dropTable_eq_ok {ifExists : Bool} {n : Name} (h : d.dropTable ifExists n = .ok d') :
    d' = d ∨ ∃ t, d.db.table? n.name = some t ∧ d'.db = d.db.remove t.name := by
  unfold dropTable at h
  split at h
  · split at h
    · exact .inl (Except.ok.inj h).symm
    · cases h
  · next t ht =>
    obtain rfl := Except.ok.inj (ok_of_check h)
    exact .inr ⟨t, ht, rfl⟩

/-- A statement that does not name a table spares it, and so does all that follows from the statement. -/
theorem spares_exec {x : Statement} (hx : Avoids name x.names) (h : Apart name d.db) (hrun : d.exec x = .ok d') :
    Spares name d.db d'.db := by
  cases x with
  | createTable ifNotExists n columns =>
    obtain ⟨db, hdb, rfl⟩ := map_eq_ok hrun
    obtain rfl | rfl := Database.createTable_eq_ok hdb
    · exact h.spares
    · refine h.create (hx _ List.mem_cons_self) fun c hc m hm => hx m ?_
      exact List.mem_cons_of_mem _ (List.mem_flatMap.2 ⟨c, hc, hm⟩)
  | dropTable ifExists n =>
    obtain rfl | ⟨t, ht, hdb⟩ := dropTable_eq_ok hrun
    · exact h.spares
    · rw [hdb]
      exact h.remove ((sameName_congr (Database.table?_eq_some ht).2 name).trans (hx _ List.mem_cons_self))
  | addColumn n c =>
    obtain ⟨db, hdb, rfl⟩ := map_eq_ok hrun
    obtain ⟨t, rows, ht, rfl⟩ := Database.addColumn_eq_ok hdb
    obtain ⟨hmem, hsame⟩ := Database.table?_eq_some ht
    refine h.put ((sameName_congr hsame name).trans (hx _ List.mem_cons_self)) fun c' hc' => ?_
    obtain hc' | hc' := List.mem_append.1 hc'
    · exact h.columns t hmem c' hc'
    · rw [List.mem_singleton.1 hc']
      exact fun m hm => hx m (List.mem_cons_of_mem _ hm)
  | createIndex i n columns =>
    obtain ⟨db, hdb, rfl⟩ := map_eq_ok hrun
    obtain ⟨indexes, rfl⟩ := Database.createIndex_eq_ok hdb
    exact ⟨rfl, h.columns, h.triggers⟩
  | createTrigger trigger n moment occasion rs =>
    obtain ⟨db, hdb, rfl⟩ := map_eq_ok hrun
    obtain ⟨t, ht, rfl⟩ := Database.createTrigger_eq_ok hdb
    refine ⟨rfl, h.columns, fun g hg => ?_⟩
    obtain hg | hg := List.mem_append.1 hg
    · exact h.triggers g hg
    · rw [List.mem_singleton.1 hg]
      intro m hm
      obtain rfl | hm := List.mem_cons.1 hm
      · exact (sameName_congr (Database.table?_eq_some ht).2 name).trans (hx _ List.mem_cons_self)
      · exact hx m (List.mem_cons_of_mem _ hm)
  | insert i => exact spares_insert (hx _ List.mem_cons_self) h hrun
  | delete n => exact spares_delete (hx _ List.mem_cons_self) h hrun
  | select terms =>
    obtain ⟨values, -, rfl⟩ := map_eq_ok hrun
    exact h.spares
  | beginTransaction | commit | rollback =>
    obtain rfl := Except.ok.inj hrun
    exact h.spares

end Draft

/-! ## Scripts -/

namespace Session

/-- Inside a transaction that it does not end, a statement is one change of the database. -/
theorem exec_eq_ok {s t : Session} {x : Statement} (hx : x.endsTransaction = false) (hs : s.saved.isSome)
    (h : s.exec x = .ok t) : ∃ d, Draft.exec x (.start s.db s.deferred) = .ok d ∧ t.db = d.db := by
  cases x with
  | beginTransaction => simp [exec, Transaction.begin?, hs] at h
  | commit | rollback => simp [Statement.endsTransaction] at hx
  | createTable | dropTable | addColumn | createIndex | createTrigger | insert | delete | select =>
    obtain ⟨d, hd, hdb, -⟩ := change_eq_ok h
    exact ⟨d, hd, hdb⟩

/-- Inside a transaction, a script that neither names a table nor ends the transaction spares the table, also if one of
its statements is refused. -/
theorem spares_run {fuel : Nat} {script : List Char} {s : Session}
    (hscript : ∀ x, Reads script x → x.endsTransaction = false ∧ Avoids name x.names) (hs : s.saved.isSome)
    (h : Apart name s.db) : Spares name s.db (run fuel script s).1.db := by
  -- on the fuel: the rest of the script finds the table as the first statement has left it
  induction fuel generalizing script s with
  | zero => exact h.spares
  | succ fuel ih =>
    rw [run]
    split
    · exact h.spares
    · exact h.spares
    · exact h.spares
    · next x rest hbegin =>
      split
      · exact h.spares
      · next t hexec =>
        obtain ⟨hends, hnames⟩ := hscript x (.first hbegin)
        obtain ⟨saved, hsaved⟩ := Option.isSome_iff_exists.1 hs
        obtain ⟨d, hd, hdb⟩ := exec_eq_ok hends hs hexec
        have hfirst : Spares name s.db t.db := by
          rw [hdb]
          exact Draft.spares_exec hnames h hd
        have hopen : t.saved.isSome := Option.isSome_iff_exists.2 ⟨saved, saved_exec hends hsaved hexec⟩
        exact hfirst.trans (ih (fun y hy => hscript y (.later hbegin hy)) hopen hfirst.apart)

end Session

end SchemaMigration.Sql
