import SchemaMigration.History.Diff

/-!
# The state of every version

`State`         : where a version stands: applied, pending, drifted or missing.
`StatusEntry`   : a version with its name and state.
`statusEntries` : one entry for every version with a file or a record, in ascending order.
-/

namespace SchemaMigration

set_option autoImplicit false

/-- Where a version stands. A drifted version was applied with another text; a missing one has no file any more. -/
inductive State
  | applied (since : Time.Instant)
  | pending
  | drifted (since : Time.Instant)
  | missing (since : Time.Instant)
  deriving DecidableEq, Repr

def State.name : State → String
  | applied _ => "applied"
  | pending => "pending"
  | drifted _ => "drifted"
  | missing _ => "missing"

def State.since? : State → Option Time.Instant
  | applied t | drifted t | missing t => some t
  | pending => none

structure StatusEntry where
  version : Version
  name : String
  state : State
  deriving DecidableEq, Repr

/-- The entries with `e` in its place, instead of any entry of the same version. -/
def putEntry (e : StatusEntry) : List StatusEntry → List StatusEntry
  | [] => [e]
  | x :: xs =>
    if e.version < x.version then e :: x :: xs
    else if e.version == x.version then e :: xs
    else x :: putEntry e xs

def Migration.entry (m : Migration) : StatusEntry := ⟨m.version, m.name, .pending⟩

def Record.entry (set : MigrationSet) (r : Record) : StatusEntry :=
  let state := match set.get? r.version with
    | some m => if m.checksum == r.checksum then .applied r.appliedAt else .drifted r.appliedAt
    | none => .missing r.appliedAt
  ⟨r.version, r.name, state⟩

/-- One entry for every version with a file or a record, in ascending order; of several records the last counts. -/
def statusEntries (set : MigrationSet) (records : List Record) : List StatusEntry :=
  let files := set.toList.foldl (fun es m => putEntry m.entry es) []
  records.foldl (fun es r => putEntry (r.entry set) es) files

end SchemaMigration
