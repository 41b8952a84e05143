import SchemaMigration.Sql.Draft

/-!
# Running statements

`Draft.exec`      : the draft after a statement that is no limit of a transaction.
`Transaction`     : a state with the one that it had when the open transaction began.
`Session`         : a database in transactions.
`Session.exec`    : the session after a statement.
`Session.run`     : the session after a script, statement by statement.
`Database.execute`: a database after one statement outside transactions.

A statement that is refused changes nothing.
-/

namespace SchemaMigration.Sql

set_option autoImplicit false

/-! ## Tables, indexes and triggers -/

namespace Database

/-- Why a name cannot be given to anything. -/
def reservedName? (name : String) : Option Refusal :=
  if "sqlite_".toList.isPrefixOf (Text.lowerAscii name.toList) then some (.reservedName name) else none

/-- Why columns do not go together: two have one name, or two are the primary key. `before` are those ahead of them. -/
def columnObjection? (table : String) (before : List Column) : List Column → Option Refusal
  | [] => none
  | c :: r =>
    if before.any fun d => sameName d.name c.name then some (.duplicateColumn c.name)
    else if c.key && before.any (·.key) then some (.severalKeys table)
    else if c.counts && !c.numbersRows then some .countsOther
    else columnObjection? table (c :: before) r

def createTable (db : Database) (ifNotExists : Bool) (n : Name) (columns : List Column) : Except Refusal Database := do
  if let some r := reservedName? n.name then throw r
  if (db.table? n.name).isSome then
    if ifNotExists then return db else throw (.tableExists n.spelling n.place)
  if db.indexes.any fun i => sameName i.name n.name then throw (.nameOfIndex n.name)
  if let some r := columnObjection? n.name [] columns then throw r
  return db.create ⟨n.name, columns, []⟩

/-- One more column in a table; rows that are there get its standard value. -/
def addColumn (db : Database) (n : Name) (c : Column) : Except Refusal Database := do
  let t ← db.table n.name
  if t.columns.any fun d => sameName d.name c.name then throw (.duplicateColumn c.name)
  if c.counts && !c.numbersRows then throw .countsOther
  if c.key then throw .addedKey
  if c.unique then throw .addedUnique
  if c.reference.isSome && c.standard != .null && !t.rows.isEmpty then throw .addedReference
  if c.notNull && c.standard == .null && !t.rows.isEmpty then throw .addedNotNull
  let standard := c.affinity.take c.standard
  if !c.allows standard && !t.rows.isEmpty then throw .addedCheck
  return db.put { t with columns := t.columns ++ [c], rows := t.rows.map (· ++ [standard]) }

def createIndex (db : Database) (index n : Name) (columns : List Name) : Except Refusal Database := do
  let t ← match db.table? n.name with
    | some t => pure t
    | none => throw (.noTable ("main." ++ n.name))
  if let some r := reservedName? index.name then throw r
  if (db.table? index.name).isSome then throw (.nameOfTable index.name)
  if db.indexes.any fun i => sameName i.name index.name then throw (.indexExists index.name)
  let isText (c : Name) : Bool := c.spelling.startsWith "\""
  if let some c := columns.find? fun c => !isText c && !t.columns.any fun d => sameName d.name c.name then
    throw (.noColumn c.name c.place)
  return { db with indexes := db.indexes ++ [⟨index.name, t.name⟩] }

def createTrigger (db : Database) (trigger n : Name) (moment : Moment) (occasion : Occasion) (rs : List Reaction) :
    Except Refusal Database := do
  let t ← match db.table? n.name with
    | some t => pure t
    | none => throw (.noTable ("main." ++ n.name))
  if let some r := reservedName? trigger.name then throw r
  if db.triggers.any fun x => sameName x.name trigger.name then throw (.triggerExists trigger.spelling trigger.place)
  if moment == .instead then throw (.insteadOnTable n.name)
  return { db with triggers := db.triggers ++ [⟨trigger.name, t.name, moment == .before, occasion, rs⟩] }

end Database

namespace Draft

/-- Whether the rows of a table count as removed, one by one, before the table is dropped: if anything refers to it, or if
references are broken and some of its own are checked at the end of the transaction. -/
def clearsFirst (d : Draft) (t : Table) : Bool :=
  !(d.db.referencesTo t.name).isEmpty ||
    ((Database.references t).any fun (r, _) => r.deferred) && d.tally.deferred != 0

/-- The tally when all rows of a table have gone out of it. -/
def tallyCleared (d : Draft) (t : Table) : Tally :=
  (t.rows.foldl (fun d row => (d.db.table? t.name).elim d fun t => d.depart [] t row row) d).tally

/-- The draft without a table. No trigger fires for its rows. -/
def dropTable (ifExists : Bool) (n : Name) (d : Draft) : Except Refusal Draft :=
  match d.db.table? n.name with
  | none => if ifExists then .ok d else .error (.noTable n.name)
  | some t =>
    let tally := if d.clearsFirst t then d.tallyCleared t else d.tally
    if tally.immediate != 0 then .error .foreignKey else .ok { d with db := d.db.remove t.name, tally }

/-- The draft after a statement that is no limit of a transaction. -/
def exec (x : Statement) (d : Draft) : Except Refusal Draft :=
  let onSchema (r : Except Refusal Database) : Except Refusal Draft := r.map fun db => { d with db }
  match x with
  | .createTable ifNotExists n columns => onSchema (d.db.createTable ifNotExists n columns)
  | .dropTable ifExists n => d.dropTable ifExists n
  | .addColumn n c => onSchema (d.db.addColumn n c)
  | .createIndex i n columns => onSchema (d.db.createIndex i n columns)
  | .createTrigger t n moment occasion rs => onSchema (d.db.createTrigger t n moment occasion rs)
  | .insert i => d.insert false i
  | .delete n => d.delete n fun _ => true
  | .select terms => (terms.mapM termValue).map fun _ => d
  | .beginTransaction | .commit | .rollback => .ok d

end Draft

/-! ## Transactions -/

/-- A state, with the one that it had when the open transaction began, and how many references the transaction has broken
that are checked at its end. -/
structure Transaction (σ : Type) where
  db : σ
  saved : Option σ
  deferred : Int
  deriving DecidableEq, Repr

/-- A database in transactions. -/
abbrev Session := Transaction Database

namespace Transaction

variable {σ : Type}

/-- A transaction at its beginning. -/
def start (x : σ) : Transaction σ := ⟨x, some x, 0⟩

def begin? (s : Transaction σ) : Except Refusal (Transaction σ) :=
  if s.saved.isSome then .error .nestedBegin else .ok (.start s.db)

def commit? (s : Transaction σ) : Except Refusal (Transaction σ) :=
  if s.saved.isNone then .error .idleCommit
  else if 0 < s.deferred then .error .foreignKey
  else .ok ⟨s.db, none, 0⟩

def rollback? (s : Transaction σ) : Except Refusal (Transaction σ) :=
  match s.saved with
  | none => .error .idleRollback
  | some x => .ok ⟨x, none, 0⟩

/-- What is left with the open transaction, if there is one, taken back. -/
def abandon (s : Transaction σ) : σ := s.saved.getD s.db

end Transaction

namespace Session

/-- The session after a change of its database. Outside transactions deferred references are checked at once. -/
def change (s : Session) (f : Draft → Except Refusal Draft) : Except Refusal Session := do
  let d ← f (.start s.db s.deferred)
  if s.saved.isSome then return ⟨d.db, s.saved, d.tally.deferred⟩
  else if 0 < d.tally.deferred then throw .foreignKey
  else return ⟨d.db, none, 0⟩

def exec (x : Statement) (s : Session) : Except Refusal Session :=
  match x with
  | .beginTransaction => s.begin?
  | .commit => s.commit?
  | .rollback => s.rollback?
  | x => change s (Draft.exec x)

/-- Why a definition is refused. This is found out while it is read, and so before anything after it is looked at; but
the name of an added column is looked at with what follows its type. -/
def definitionObjection? (s : Session) (x : Statement) : Option Refusal :=
  match x with
  | .createTable .. | .createTrigger .. => objection? (exec x s)
  | .addColumn n c =>
    if c == { name := c.name, type := c.type } then objection? (s.db.table n.name)
    else objection? (exec (.addColumn n { name := c.name, type := c.type }) s)
  | _ => none
where
  objection? {α : Type} : Except Refusal α → Option Refusal
    | .error r => some r
    | .ok _ => none

/-- The session after a script. What its statements did before one was refused stays done; the refusal comes with what
was left of the script when its statement was reached. -/
def run : Nat → List Char → Session → Session × Except String Unit
  | 0, _, s => (s, .ok ())
  | fuel + 1, script, s =>
    let refused (r : Refusal) := (s, Except.error (r.message (String.ofList script)))
    match beginning script with
    | .nothing => (s, .ok ())
    | .broken r => refused r
    | .followed x r => refused (definitionObjection? s x |>.getD r)
    | .whole x rest =>
      match exec x s with
      | .error r => refused r
      | .ok s => run fuel rest s

def runScript (script : String) (s : Session) : Session × Except String Unit :=
  run (script.length + 1) script.toList s

end Session

/-- How many rows one statement outside transactions has changed, and the database after it. -/
def Database.execute (db : Database) (f : Draft → Except Refusal Draft) : Except Refusal (Nat × Database) := do
  let d ← f (.start db 0)
  if 0 < d.tally.deferred then throw .foreignKey else return (d.changed, d.db)

end SchemaMigration.Sql
