import SchemaMigration.Sql.Execution

/-!
# Databases as scripts

`Database.dump`     : a script of statements that make the database.
`Database.restore?` : the database that such a script makes.

Rows are restored as they were: nothing is checked again and no trigger fires.
-/

namespace SchemaMigration.Sql

set_option autoImplicit false

/-! ## Spelling -/

/-- A text between marks; a mark inside is written twice. -/
def between (mark : Char) (s : String) : String :=
  String.ofList (mark :: s.toList.flatMap (fun c => if c == mark then [c, c] else [c]) ++ [mark])

def nameText (name : String) : String := between '"' name

def hexText (b : UInt8) : List Char := [Nat.digitChar (b.toNat / 16), Nat.digitChar (b.toNat % 16)]

def bytesText (bytes : List UInt8) : String := "X'" ++ String.ofList (bytes.flatMap hexText) ++ "'"

/-- All digits of a number. -/
def Binary64.sql : Binary64 → String
  | finite mantissa exponent =>
    if 0 ≤ exponent then toString (mantissa * (Nat.pow 2 exponent.toNat : Nat)) ++ ".0"
    else
      let places := (-exponent).toNat
      toString (mantissa * (Nat.pow 5 places : Nat)) ++ s!"e-{places}"
  | infinite negative => if negative then "-9e999" else "9e999"

def Value.sql : Value → String
  | null => "NULL"
  | integer n => toString n
  | real x => x.sql
  | text s => between '\'' s
  | illFormed t => "CAST(" ++ bytesText t.bytes ++ " AS TEXT)"
  | blob bytes => bytesText bytes

def listText (items : List String) : String := "(" ++ ", ".intercalate items ++ ")"

def textIf (condition : Bool) (s : String) : String := if condition then s else ""

def Reference.sql (r : Reference) : String :=
  " REFERENCES " ++ nameText r.table ++ (r.column.elim "" fun c => " " ++ listText [nameText c]) ++
    textIf r.deferred " DEFERRABLE INITIALLY DEFERRED"

def Column.sql (c : Column) : String :=
  let type := String.join ((c.type.splitOn " ").map fun w => textIf (w != "") (" " ++ nameText w))
  nameText c.name ++ type ++ textIf c.key " PRIMARY KEY" ++ textIf c.counts " AUTOINCREMENT" ++
    textIf c.unique " UNIQUE" ++ textIf c.notNull " NOT NULL" ++
    textIf (c.standard != .null) (" DEFAULT " ++ c.standard.sql) ++
    (c.only.elim "" fun n => " CHECK (" ++ nameText c.name ++ s!" = {n})") ++ c.reference.elim "" Reference.sql

def Term.sql : Term → String
  | literal v => v.sql
  | column n => nameText n.name

def Insertion.sql (i : Insertion) : String :=
  "INSERT INTO " ++ nameText i.table.name ++ (i.columns.elim "" fun cs => " " ++ listText (cs.map nameText)) ++
    " VALUES " ++ ", ".intercalate (i.rows.map fun row => listText (row.map Term.sql))

def Reaction.sql : Reaction → String
  | insert i => i.sql
  | delete n => "DELETE FROM " ++ nameText n.name
  | refuse reason => "SELECT RAISE (ABORT, " ++ between '\'' reason ++ ")"
  | other names => "SELECT " ++ (if names.isEmpty then "NULL" else ", ".intercalate (names.map nameText))

def Occasion.sql : Occasion → String
  | insertion => "INSERT"
  | deletion => "DELETE"
  | change => "UPDATE"

/-! ## Dumping -/

def Table.creation (t : Table) : String := "CREATE TABLE " ++ nameText t.name ++ " " ++ listText (t.columns.map Column.sql)

def Table.insertions (t : Table) : List String :=
  t.rows.map fun row => "INSERT INTO " ++ nameText t.name ++ " VALUES " ++ listText (row.map Value.sql)

/-- The statement that makes an index on the first column of its table. -/
def Database.indexCreation (db : Database) (i : Index) : String :=
  let columns := ((db.table? i.table).elim [] (·.columns)).take 1
  "CREATE INDEX " ++ nameText i.name ++ " ON " ++ nameText i.table ++ " " ++ listText (columns.map fun c => nameText c.name)

def Trigger.creation (t : Trigger) : String :=
  "CREATE TRIGGER " ++ nameText t.name ++ (if t.before then " BEFORE " else " AFTER ") ++ t.occasion.sql ++ " ON " ++ nameText t.table ++ " BEGIN " ++
    String.join (t.reactions.map fun r => r.sql ++ "; ") ++ "END"

namespace Database

/-- A script of statements that make the database. -/
def dump (db : Database) : String :=
  let statements := db.tables.flatMap (fun t => t.creation :: t.insertions) ++ db.indexes.map db.indexCreation ++
    db.triggers.map Trigger.creation
  String.join (statements.map (· ++ ";\n"))

/-! ## Restoring -/

def literals? (row : List Term) : Option Row :=
  row.mapM fun
    | .literal v => some v
    | .column _ => none

/-- The database with the effect of a statement; rows are put back as they are. -/
def restoreStatement? (db : Database) : Statement → Option Database
  | .insert i => do
    let t ← db.table? i.table.name
    let rows ← i.rows.mapM literals?
    return db.put { t with rows := t.rows ++ rows }
  | x => ((Draft.start db 0).exec x).toOption.map (·.db)

/-- The database with the effect of a script. `fuel` bounds the statements. -/
def restoreFrom? : Nat → List Char → Database → Option Database
  | 0, _, _ => none
  | fuel + 1, script, db =>
    match beginning script with
    | .nothing => some db
    | .whole x rest => db.restoreStatement? x >>= restoreFrom? fuel rest
    | .followed .. | .broken _ => none

def restore? (script : String) : Option Database := restoreFrom? (script.length + 1) script.toList .empty

end Database

end SchemaMigration.Sql
