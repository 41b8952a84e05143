/-!
# Why SQL is refused

`Refusal`         : the causes, from a word that does not belong where it stands to a broken constraint.
`Refusal.message` : the sentence, which for some causes goes on with the statement and the place in it.
-/

namespace SchemaMigration.Sql

set_option autoImplicit false

/-- The causes for which a statement is refused. `place` is where in the statement the cause stands. -/
inductive Refusal
  | unexpected (spelling : String) (place : Nat)
  | unrecognized (spelling : String) (place : Nat)
  | incomplete
  | tableExists (spelling : String) (place : Nat)
  | triggerExists (spelling : String) (place : Nat)
  | indexExists (name : String)
  | nameOfTable (name : String)
  | nameOfIndex (name : String)
  | reservedName (name : String)
  | noTable (name : String)
  | noColumn (name : String) (place : Nat)
  | noTargetColumn (table column : String)
  | duplicateColumn (name : String)
  | severalKeys (table : String)
  | countsOther
  | insteadOnTable (table : String)
  | addedKey
  | addedUnique
  | addedReference
  | addedNotNull
  | addedCheck
  | valueCount (table : String) (columns values : Nat)
  | targetCount (values columns : Nat)
  | unevenRows
  | datatype
  | notNull (table column : String)
  | notUnique (table column : String)
  | check (column : String) (only : Int64)
  | foreignKey
  | foreignKeyMismatch (child parent : String)
  /-- The reason that a trigger gives. -/
  | raised (reason : String)
  | unknownOption (name : String)
  | nestedBegin
  | idleCommit
  | idleRollback
  deriving DecidableEq, Repr

namespace Refusal

/-- Where in the statement the cause stands, for the causes that are shown with it. -/
def place? : Refusal → Option Nat
  | unexpected _ p | unrecognized _ p | tableExists _ p | triggerExists _ p | noColumn _ p => some p
  | _ => none

def sentence : Refusal → String
  | unexpected s _ => "near \"" ++ s ++ "\": syntax error"
  | unrecognized s _ => "unrecognized token: \"" ++ s ++ "\""
  | incomplete => "incomplete input"
  | tableExists s _ => "table " ++ s ++ " already exists"
  | triggerExists s _ => "trigger " ++ s ++ " already exists"
  | indexExists n => "index " ++ n ++ " already exists"
  | nameOfTable n => "there is already a table named " ++ n
  | nameOfIndex n => "there is already an index named " ++ n
  | reservedName n => "object name reserved for internal use: " ++ n
  | noTable n => "no such table: " ++ n
  | noColumn n _ => "no such column: " ++ n
  | noTargetColumn t c => "table " ++ t ++ " has no column named " ++ c
  | duplicateColumn n => "duplicate column name: " ++ n
  | severalKeys t => "table \"" ++ t ++ "\" has more than one primary key"
  | countsOther => "AUTOINCREMENT is only allowed on an INTEGER PRIMARY KEY"
  | insteadOnTable t => "cannot create INSTEAD OF trigger on table: " ++ t
  | addedKey => "Cannot add a PRIMARY KEY column"
  | addedUnique => "Cannot add a UNIQUE column"
  | addedReference => "Cannot add a REFERENCES column with non-NULL default value"
  | addedNotNull => "Cannot add a NOT NULL column with default value NULL"
  | addedCheck => "CHECK constraint failed"
  | valueCount t c v => "table " ++ t ++ s!" has {c} columns but {v} values were supplied"
  | targetCount v c => s!"{v} values for {c} columns"
  | unevenRows => "all VALUES must have the same number of terms"
  | datatype => "datatype mismatch"
  | notNull t c => "NOT NULL constraint failed: " ++ t ++ "." ++ c
  | notUnique t c => "UNIQUE constraint failed: " ++ t ++ "." ++ c
  | check c n => "CHECK constraint failed: " ++ c ++ s!" = {n}"
  | foreignKey => "FOREIGN KEY constraint failed"
  | foreignKeyMismatch c p => "foreign key mismatch - \"" ++ c ++ "\" referencing \"" ++ p ++ "\""
  | raised reason => reason
  | unknownOption n => "unknown table option: " ++ n
  | nestedBegin => "cannot start a transaction within a transaction"
  | idleCommit => "cannot commit - no transaction is active"
  | idleRollback => "cannot rollback - no transaction is active"

def message (r : Refusal) (statement : String) : String :=
  match r.place? with
  | some p => r.sentence ++ " in " ++ statement ++ s!" at offset {p}"
  | none => r.sentence

end Refusal

end SchemaMigration.Sql
