import SchemaMigration.Sql.Database

/-!
# Changes of rows

`Draft`              : a database as a statement has changed it so far, with the references that have been broken.
`Draft.addRow`       : a row added to a table, and the triggers that fire before it comes and after it.
`Draft.removeRow`    : a row taken out of a table, and the triggers that fire.
`Database.objection?`: why an insertion or a deletion is refused before any row is looked at.
`Draft.insert`, `Draft.delete` : the draft after an insertion or a deletion.

Triggers do not fire while they are at work, and of several the one that was created last fires first.
-/

namespace SchemaMigration.Sql

set_option autoImplicit false

/-- A database as a statement has changed it so far. `changed` counts the rows that the statement itself has added or
removed, and not its triggers. -/
structure Draft where
  db : Database
  tally : Tally
  changed : Nat
  deriving DecidableEq, Repr

/-- What is done when a trigger fires. -/
abbrev Firing := Trigger → Draft → Except Refusal Draft

/-! ## Values -/

/-- The value of a term; there are no columns to take values from. -/
def termValue : Term → Except Refusal Value
  | .literal v => .ok v
  | .column n => .error (.noColumn n.name n.place)

/-- The values for all columns, from those for the named columns. -/
def spread (t : Table) (columns : Option (List String)) (values : List Value) : List Value :=
  match columns with
  | none => values
  | some names =>
    t.columns.map fun c => ((names.zip values).find? fun (n, _) => sameName n c.name).elim c.standard (·.2)

def shapeObjection? (t : Table) (i : Insertion) : Option Refusal :=
  let width := (i.rows.head?.getD []).length
  let unknown := (i.columns.getD []).find? fun n => !t.columns.any fun c => sameName c.name n
  match unknown, i.columns with
  | some n, _ => some (.noTargetColumn i.table.name n)
  | none, some names =>
    if i.rows.any (·.length != width) then some .unevenRows
    else if width != names.length then some (.targetCount width names.length) else none
  | none, none =>
    if i.rows.any (·.length != width) then some .unevenRows
    else if width != t.columns.length then some (.valueCount i.table.name t.columns.length width) else none

/-! ## What can be seen before a statement runs -/

namespace Database

/-- The table of that name for a statement, or for a reaction of the triggers that are at work. -/
def tableFor (db : Database) (atWork : List String) (name : String) : Except Refusal Table :=
  match db.table? name with
  | some t => .ok t
  | none => .error (.noTable (if atWork.isEmpty then name else "main." ++ name))

/-- The triggers that fire when a row comes into a table or goes out of it, in their order. -/
def reactionsTo (db : Database) (atWork : List String) (before : Bool) (table : String) (occasion : Occasion) :
    List Trigger :=
  (db.triggers.filter fun g =>
    sameName g.table table && g.before == before && g.occasion == occasion && !atWork.contains g.name).reverse

/-- Whether a trigger stands on the table for that occasion. -/
def watched (db : Database) (table : String) (occasion : Occasion) : Bool :=
  db.triggers.any fun g => sameName g.table table && g.occasion == occasion

/-- Whether an insertion adds one row and nothing else. -/
def addsOneRow (db : Database) (atWork : List String) (i : Insertion) : Bool :=
  atWork.isEmpty && i.rows.length == 1 && !db.watched i.table.name .insertion

section

-- why a reaction is refused, while these triggers are at work
variable (inner : List String → Reaction → Option Refusal)

def firingObjection? (db : Database) (atWork : List String) (table : String) (occasion : Occasion) : Option Refusal :=
  (db.reactionsTo atWork true table occasion ++ db.reactionsTo atWork false table occasion).findSome? fun g =>
    g.reactions.findSome? (inner (g.name :: atWork))

def insertionObjection? (db : Database) (atWork : List String) (i : Insertion) : Option Refusal :=
  match db.tableFor atWork i.table.name, i.rows.mapM fun row => row.mapM termValue with
  | .error r, _ => some r
  | .ok _, .error r => some r
  | .ok t, .ok _ =>
    shapeObjection? t i <|> db.danglingReference? t <|> db.keylessReference? t (db.addsOneRow atWork i) <|>
      db.firingObjection? inner atWork i.table.name .insertion

def deletionObjection? (db : Database) (atWork : List String) (table : String) : Option Refusal :=
  match db.tableFor atWork table with
  | .error r => some r
  | .ok t =>
    db.danglingReference? t <|> db.keylessReference? t false <|> db.firingObjection? inner atWork table .deletion

def reactionObjection? (db : Database) (atWork : List String) : Reaction → Option Refusal
  | .insert i => db.insertionObjection? inner atWork i
  | .delete n => db.deletionObjection? inner atWork n.name
  | .refuse _ | .other _ => none

end

/-- Why a reaction is refused whatever the rows are: something that it names is not there or does not fit, or a trigger
that it could fire is refused for such a cause. `depth` bounds how many triggers fire one another. -/
def objection? (db : Database) : Nat → List String → Reaction → Option Refusal
  | 0 => db.reactionObjection? fun _ _ => none
  | depth + 1 => db.reactionObjection? (objection? db depth)

end Database

/-! ## Rows that come and go -/

/-- The refusals of a row that an insertion can pass over. -/
def Refusal.isConflict : Refusal → Bool
  | notNull .. | notUnique .. | check .. => true
  | _ => false

def Reaction.inserts : Reaction → Bool
  | insert _ => true
  | _ => false

namespace Draft

def start (db : Database) (deferred : Int) : Draft := ⟨db, ⟨0, deferred⟩, 0⟩

/-- The draft after a change of one row of a table. -/
def change (d : Draft) (atWork : List String) (t : Table) (rows : List Row) (tally : Tally) : Draft :=
  ⟨d.db.put { t with rows }, tally, if atWork.isEmpty then d.changed + 1 else d.changed⟩

def arrive (d : Draft) (atWork : List String) (alone : Bool) (t : Table) (row : Row) : Draft :=
  d.change atWork t (t.rows ++ [row]) (d.db.tallyArrival alone t row d.tally)

def depart (d : Draft) (atWork : List String) (t : Table) (row there : Row) : Draft :=
  d.change atWork t (t.rows.erase there) (d.db.tallyDeparture t row there d.tally)

section

variable (fire : Firing) (atWork : List String)

def fireAll (before : Bool) (table : String) (occasion : Occasion) (d : Draft) : Except Refusal Draft :=
  (d.db.reactionsTo atWork before table occasion).foldlM (fun d g => fire g d) d

/-- One more row in a table. With `ignore`, a row that conflicts with the table or its other rows is passed over. Values of
a wrong kind are seen before anything fires. -/
def addRow (ignore alone : Bool) (table : String) (values : List Value) (d : Draft) : Except Refusal Draft := do
  let t ← d.db.table table
  let _ ← t.typed values
  let d ← d.fireAll fire atWork true table .insertion
  let t ← d.db.table table
  match t.fit values with
  | .ok row => (d.arrive atWork alone t row).fireAll fire atWork false table .insertion
  | .error r => if ignore && r.isConflict then return d else throw r

/-- A row taken out of a table, unless what fired before it has done so. -/
def removeRow (table : String) (row : Row) (d : Draft) : Except Refusal Draft := do
  let d ← d.fireAll fire atWork true table .deletion
  let t ← d.db.table table
  match t.rows.find? (t.isRow row) with
  | some there => (d.depart atWork t row there).fireAll fire atWork false table .deletion
  | none => return d

def addRows (ignore : Bool) (i : Insertion) (d : Draft) : Except Refusal Draft := do
  let t ← d.db.tableFor atWork i.table.name
  let rows ← i.rows.mapM fun row => row.mapM termValue
  let alone := d.db.addsOneRow atWork i
  rows.foldlM (fun d values => addRow fire atWork ignore alone i.table.name (spread t i.columns values) d) d

/-- The rows of a table that satisfy `p` taken out of it, one by one. -/
def removeRows (table : String) (p : Row → Bool) (d : Draft) : Except Refusal Draft := do
  let t ← d.db.tableFor atWork table
  (t.rows.filter p).foldlM (fun d row => removeRow fire atWork table row d) d

def react (ignore : Bool) (r : Reaction) (d : Draft) : Except Refusal Draft :=
  match r with
  | .insert i => addRows fire atWork ignore i d
  | .delete n => removeRows fire atWork n.name (fun _ => true) d
  | .refuse reason => .error (.raised reason)
  | .other _ => .ok d

end

/-- What is done when a trigger fires while others are at work: its reactions one after another. They pass over rows if
the statement does, and so does what they set off by insertions, but not by deletions. `depth` bounds how many triggers
fire one another. -/
def firing : Nat → Bool → List String → Firing
  | 0, _, _, _, d => .ok d
  | depth + 1, ignore, atWork, g, d =>
    g.reactions.foldlM (fun d r =>
      d.react (firing depth (ignore && r.inserts) (g.name :: atWork)) (g.name :: atWork) ignore r) d

/-! ## Statements -/

/-- The draft, unless it has broken references that are checked at the end of the statement. -/
def checked (d : Draft) : Except Refusal Draft := if 0 < d.tally.immediate then .error .foreignKey else .ok d

/-- The draft after a statement that adds or removes rows, if there is no objection to it. -/
def changeRows (r : Reaction) (ignore : Bool) (f : Firing → Draft → Except Refusal Draft) (d : Draft) :
    Except Refusal Draft :=
  match d.db.objection? d.db.triggers.length [] r with
  | some refusal => .error refusal
  | none => f (firing d.db.triggers.length ignore []) d >>= checked

/-- The draft after an insertion, which may be one that passes over rows that conflict. -/
def insert (ignore : Bool) (i : Insertion) (d : Draft) : Except Refusal Draft :=
  d.changeRows (.insert i) ignore fun fire => addRows fire [] ignore i

/-- The draft after a deletion of the rows that satisfy `p`. -/
def delete (n : Name) (p : Row → Bool) (d : Draft) : Except Refusal Draft :=
  d.changeRows (.delete n) false fun fire => removeRows fire [] n.name p

end Draft

end SchemaMigration.Sql
