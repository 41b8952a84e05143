import SchemaMigration.Fault
import SchemaMigration.Settings.Basic
import SchemaMigration.Text.Character

/-!
# Names in queries

`checkName`  : refuses the names that could not be told from the query around them.
`quoteName`  : a name between backquotes.
`onCluster`  : the clause that names a cluster.
-/

namespace SchemaMigration.Clickhouse

set_option autoImplicit false

/-- Whether `c` may stand in a name: it must not close the quotes, escape, mark a place for a value, or be a control
character. -/
def isNameChar (c : Char) : Bool := !(c == '\x60' || c == '\\' || c == '?' || Text.isControl c)

def isName (name : String) : Bool := name != "" && name.toList.all isNameChar

/-- Refuses a name that is none; `kind` says what it should be the name of. -/
def checkName (kind name : String) : Except Fault Unit :=
  if isName name then .ok () else .error (.config ("invalid " ++ kind ++ " name `" ++ name ++ "`"))

def quoteName (name : String) : String := "`" ++ name ++ "`"

def onCluster (cluster : Option String) : String :=
  match cluster with
  | some c => " ON CLUSTER " ++ quoteName c
  | none => ""

def checkNames (c : Connection) : Except Fault Unit := do
  checkName "database" c.database
  if let some cluster := c.cluster then checkName "cluster" cluster

end SchemaMigration.Clickhouse
