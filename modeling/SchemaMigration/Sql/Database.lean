import SchemaMigration.Sql.Statement

/-!
# Databases

`Table`      : columns and rows.
`Database`   : tables, and the indexes and triggers on them.
`Table.fit`  : a row as a table stores it, if its constraints allow the row.
`Tally`      : how many references have been broken, less those that have been mended.
`Database.tallyArrival`, `Database.tallyDeparture` : what a row that comes or goes breaks and mends.

References are never looked for in all rows: a row that was there before is not asked again where its references lead.
-/

namespace SchemaMigration.Sql

set_option autoImplicit false

abbrev Row := List Value

structure Table where
  name : String
  columns : List Column
  rows : List Row
  deriving DecidableEq, Repr

/-- An index, of which nothing is kept but its name and its table. -/
structure Index where
  name : String
  table : String
  deriving DecidableEq, Repr

structure Trigger where
  name : String
  table : String
  /-- Whether it fires before a row comes or goes, or afterwards. -/
  before : Bool
  occasion : Occasion
  reactions : List Reaction
  deriving DecidableEq, Repr

structure Database where
  tables : List Table
  indexes : List Index
  triggers : List Trigger
  deriving DecidableEq, Repr

def Database.empty : Database := ⟨[], [], []⟩

def sameName (a b : String) : Bool := Text.sameIgnoringCase a.toList b.toList

/-! ## Rows -/

def Column.affinity (c : Column) : Affinity := .ofType c.type

/-- Whether the column numbers the rows: an integer primary key does. -/
def Column.numbersRows (c : Column) : Bool := c.key && sameName c.type "integer"

/-- The value of a row in column `i`. -/
def cell (row : Row) (i : Nat) : Value := row.getD i .null

/-- The next number for a row: one above the greatest in column `i`, and one in a table without rows. If there is none
above the greatest, any number may come that no row has; it is the least from one on. -/
def nextNumber (rows : List Row) (i : Nat) : Int64 :=
  let numbers := rows.filterMap fun row => match cell row i with
    | .integer k => some k
    | _ => none
  let greatest := numbers.foldl (fun a b => if a < b then b else a) Int64.minValue
  if numbers.isEmpty then 1
  else if greatest != Int64.maxValue then greatest + 1
  else
    let small := (List.range (rows.length + 1)).map fun k => Int64.ofNat (k + 1)
    (small.find? fun k => !numbers.contains k).getD 1

/-- A value as column `i` stores it; a row without a number gets the next one. -/
def Table.stored (t : Table) (c : Column) (i : Nat) (v : Value) : Except Refusal Value :=
  if c.numbersRows then
    match c.affinity.take v with
    | .integer n => .ok (.integer n)
    | .null => .ok (.integer (nextNumber t.rows i))
    | _ => .error .datatype
  else .ok (c.affinity.take v)

/-- Whether the table has a row with that value in column `i`; missing values are never the same. -/
def Table.has (t : Table) (i : Nat) (v : Value) : Bool := v != .null && t.rows.any fun row => (cell row i).same v

def Table.places (t : Table) : List (Column × Nat) := t.columns.zipIdx

/-- Whether a row of the table is that row: its number tells, or else its values. -/
def Table.isRow (t : Table) (row x : Row) : Bool :=
  match t.places.find? (·.1.numbersRows) with
  | some (_, i) => cell x i == cell row i
  | none => x == row

/-- Whether a check allows the value, which it does if the value is missing. -/
def Column.allows (c : Column) (v : Value) : Bool :=
  v == .null || c.only.all fun n => v.same (c.affinity.take (.integer n))

/-- Why a row does not fit into the table: a missing value, a value that is not allowed, or one that is taken. Of the
columns whose values must differ, the one that numbers the rows comes first, and then the one that was declared last. -/
def Table.objection? (t : Table) (row : Row) : Option Refusal :=
  let missing := t.places.find? fun (c, i) => c.notNull && cell row i == .null
  let wrong := t.places.find? fun (c, i) => !c.allows (cell row i)
  let taken := (t.places.filter (·.1.numbersRows) ++ t.places.reverse).find? fun (c, i) =>
    (c.key || c.unique) && t.has i (cell row i)
  match missing, wrong, taken with
  | some (c, _), _, _ => some (.notNull t.name c.name)
  | none, some (c, _), _ => some (.check c.name (c.only.getD 0))
  | none, none, some (c, _) => some (.notUnique t.name c.name)
  | none, none, none => none

/-- The values as the columns of the table store them. -/
def Table.typed (t : Table) (values : List Value) : Except Refusal Row :=
  (t.places.zip values).mapM fun ((c, i), v) => t.stored c i v

/-- The values as a row of the table, if it fits. -/
def Table.fit (t : Table) (values : List Value) : Except Refusal Row := do
  let row ← t.typed values
  match t.objection? row with
  | some r => throw r
  | none => return row

/-! ## Tables -/

namespace Database

def table? (db : Database) (name : String) : Option Table := db.tables.find? fun t => sameName t.name name

/-- The table with exactly that name, in which upper and lower case count. -/
def spelled? (db : Database) (name : String) : Option Table := (db.table? name).filter (·.name == name)

def table (db : Database) (name : String) : Except Refusal Table :=
  match db.table? name with
  | some t => .ok t
  | none => .error (.noTable name)

/-- The database with a table in the place of the one of its name. -/
def put (db : Database) (t : Table) : Database :=
  { db with tables := db.tables.map fun x => if sameName x.name t.name then t else x }

def create (db : Database) (t : Table) : Database := { db with tables := db.tables ++ [t] }

/-- The database without the table of that name and what stands on it. -/
def remove (db : Database) (name : String) : Database :=
  { tables := db.tables.filter fun t => !sameName t.name name
    indexes := db.indexes.filter fun i => !sameName i.table name
    triggers := db.triggers.filter fun t => !sameName t.table name }

/-! ## References -/

/-- The place of the column that a reference refers to. It has to be a key or unique. -/
def keyPlace? (parent : Table) (r : Reference) : Option Nat :=
  let named (c : Column) : Bool := match r.column with
    | some name => sameName c.name name && (c.key || c.unique)
    | none => c.key
  (parent.places.find? fun (c, _) => named c).map (·.2)

def affinityAt (t : Table) (i : Nat) : Affinity := (t.columns[i]?).elim .none Column.affinity

def refers (db : Database) (r : Reference) (v : Value) : Bool :=
  match db.table? r.table with
  | none => false
  | some parent =>
    match keyPlace? parent r with
    | none => false
    | some i => parent.has i ((affinityAt parent i).take v)

/-- Whether a row that is about to come into a table refers to itself. What it refers by is taken as it is, unless it refers
to the number of the row. -/
def refersToItself (t : Table) (row : Row) (r : Reference) (i : Nat) : Bool :=
  sameName r.table t.name && (keyPlace? t r).any fun k =>
    let v := if (t.columns[k]?).any Column.numbersRows then (affinityAt t k).take (cell row i) else cell row i
    v.same (cell row k)

/-- The references of a table with the places of their columns, the one that was declared last first. -/
def references (t : Table) : List (Reference × Nat) :=
  (t.places.filterMap fun (c, i) => c.reference.map (·, i)).reverse

/-- The references that lead to tables of that name, each with the table in which it stands and the place of its column.
The one that was declared last comes first. -/
def referencesTo (db : Database) (name : String) : List (Table × Reference × Nat) :=
  db.tables.reverse.flatMap fun child =>
    ((references child).filter fun (r, _) => sameName r.table name).map fun (r, j) => (child, r, j)

/-- How many of the rows of `child` refer to a row of `t`, by a reference that stands at place `j`. Values of two columns
are compared as numbers if one of the columns prefers numbers. -/
def referrers (t : Table) (row : Row) (child : Table) (r : Reference) (j : Nat) (rows : List Row) : Nat :=
  match keyPlace? t r with
  | none => 0
  | some i =>
    let numeric := (affinityAt t i).isNumeric || (affinityAt child j).isNumeric
    let a : Affinity := if numeric then .integer else .none
    let v := a.take (cell row i)
    rows.countP fun x => v != .null && v.same (a.take (cell x j))

/-- The refusal of changes to a table whose references lead nowhere. -/
def danglingReference? (db : Database) (t : Table) : Option Refusal :=
  (references t).findSome? fun (r, _) =>
    match db.table? r.table with
    | none => some (.noTable ("main." ++ r.table))
    | some parent => if (keyPlace? parent r).isNone then some (.foreignKeyMismatch t.name parent.name) else none

/-- The refusal of changes to a table to which references of other tables, or its own, lead without finding a key. -/
def keylessReference? (db : Database) (t : Table) (deferredOnly : Bool) : Option Refusal :=
  (db.referencesTo t.name).findSome? fun (child, r, _) =>
    if (r.deferred || !deferredOnly) && (keyPlace? t r).isNone then some (.foreignKeyMismatch child.name t.name)
    else none

end Database

/-! ## Broken references -/

/-- How many references have been broken, less those that have been mended: of the references that are checked at the end
of each statement, and of those that are checked at the end of the transaction. -/
structure Tally where
  immediate : Int
  deferred : Int
  deriving DecidableEq, Repr

namespace Tally

def of (c : Tally) (r : Reference) : Int := if r.deferred then c.deferred else c.immediate

def add (c : Tally) (r : Reference) (n : Int) : Tally :=
  if r.deferred then { c with deferred := c.deferred + n } else { c with immediate := c.immediate + n }

/-- Nothing is mended as long as nothing counts as broken. -/
def mend (c : Tally) (r : Reference) (n : Nat) : Tally := if c.of r = 0 then c else c.add r (-n)

end Tally

namespace Database

/-- The tally after a row has come into a table: it may lack what it refers to, and may be what others lacked. A row that
is `alone` in its statement mends nothing that is checked at the end of the statement. `db` is without the row. -/
def tallyArrival (db : Database) (alone : Bool) (t : Table) (row : Row) (c : Tally) : Tally :=
  let c := (references t).foldl (fun c (r, i) =>
    if cell row i == .null || db.refers r (cell row i) || refersToItself t row r i then c else c.add r 1) c
  (db.referencesTo t.name).foldl (fun c (child, r, j) =>
    if alone && !r.deferred then c else c.mend r (referrers t row child r j child.rows)) c

/-- The tally after a row has gone out of a table: it lacks nothing any more, and those that refer to it lack it. If the
table to which it refers is not there, it counts as mended whatever the tally is. `db` is with the row, which is found in
it as `there`. -/
def tallyDeparture (db : Database) (t : Table) (row there : Row) (c : Tally) : Tally :=
  let c := (references t).foldl (fun c (r, i) =>
    if cell row i == .null then c
    else match db.table? r.table with
      | none => c.add r (-1)
      | some parent => if (keyPlace? parent r).isNone || db.refers r (cell row i) then c else c.mend r 1) c
  (db.referencesTo t.name).foldl (fun c (child, r, j) =>
    let rows := if sameName child.name t.name then child.rows.erase there else child.rows
    c.add r (referrers t row child r j rows)) c

end Database

end SchemaMigration.Sql
