import SchemaMigration.Migration.Set
import SchemaMigration.History.Record

/-!
# Files against records

`Diff`    : what a set of migrations and a list of records have to do with one another.
`Diff.of` : the comparison.
-/

namespace SchemaMigration

set_option autoImplicit false

/-- A comparison of the migrations at hand with the records of a database. -/
structure Diff where
  pending : List Migration
  /-- The migrations whose text is not the one that was applied. -/
  drifted : List Migration
  missing : List Record
  /-- How many migrations have a record. -/
  skipped : Nat
  /-- The pending versions below the highest recorded one. -/
  outOfOrder : List Version

def highestVersion? (records : List Record) : Option Version := (records.map (·.version)).max?

def Migration.isDrifted (records : List Record) (m : Migration) : Bool :=
  match lastRecord? records m.version with
  | some r => r.checksum != m.checksum
  | none => false

def Migration.isPending (records : List Record) (m : Migration) : Bool := (lastRecord? records m.version).isNone

/-- Whether the version lies below the highest recorded one. -/
def isOutOfOrder (records : List Record) (v : Version) : Bool :=
  match highestVersion? records with
  | some h => v < h
  | none => false

def Diff.of (set : MigrationSet) (records : List Record) : Diff :=
  let pending := set.toList.filter (·.isPending records)
  { pending
    drifted := set.toList.filter (·.isDrifted records)
    missing := records.filter fun r => (set.get? r.version).isNone
    skipped := set.toList.countP fun m => !m.isPending records
    outOfOrder := (pending.map (·.version)).filter (isOutOfOrder records) }

end SchemaMigration
