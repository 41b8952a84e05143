import SchemaMigration.Migration.Basic
import SchemaMigration.Script.Splitter

/-!
# What of a migration is run

`Migration.prepare` : the statements to run. With several statements allowed they run one by one; otherwise a file may
hold one at most, and the trimmed file runs as it was written.
-/

namespace SchemaMigration

set_option autoImplicit false

def Migration.statements (m : Migration) : Except Fault (List String) :=
  match Script.split m.sql with
  | .ok statements => .ok statements
  | .error u => .error (.malformedStatement m.fileName u.message)

def Migration.prepare (m : Migration) (severalAllowed : Bool) : Except Fault (List String) := do
  let statements ← m.statements
  if severalAllowed || statements.isEmpty then return statements
  else if statements.length > 1 then throw (.multipleStatements m.fileName statements.length)
  else return [Text.trimString m.sql]

end SchemaMigration
