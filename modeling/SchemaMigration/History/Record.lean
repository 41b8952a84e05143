import SchemaMigration.Migration.Basic
import SchemaMigration.Time.Instant

/-!
# Records of applied migrations

`Record`            : what is kept of a migration that was applied.
`Migration.record`  : the record of a migration applied by a user at an instant.
`lastRecord?`       : the record that counts for a version, which is the last one.
-/

namespace SchemaMigration

set_option autoImplicit false

/-- What is kept of a migration that was applied. -/
structure Record where
  version : Version
  name : String
  checksum : String
  appliedBy : String
  appliedAt : Time.Instant
  deriving DecidableEq, Repr

def Migration.record (m : Migration) (user : String) (time : Time.Instant) : Record :=
  { version := m.version, name := m.name, checksum := m.checksum, appliedBy := user, appliedAt := time }

def lastRecord? (records : List Record) (v : Version) : Option Record :=
  records.reverse.find? (·.version == v)

end SchemaMigration
