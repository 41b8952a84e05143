import SchemaMigration.Fault
import SchemaMigration.Digest.Sha256

/-!
# Migrations

`Migration`          : a version, a name, the file it was read from and its SQL.
`Migration.checksum` : the digest of the SQL, by which a later change of the file is seen.
-/

namespace SchemaMigration

set_option autoImplicit false

/-- One step of the schema's history. -/
structure Migration where
  version : Version
  name : String
  fileName : String
  sql : String
  deriving DecidableEq, Repr

def Migration.checksum (m : Migration) : String := Digest.hexDigestOfString m.sql

end SchemaMigration
