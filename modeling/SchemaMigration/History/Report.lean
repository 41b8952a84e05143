import SchemaMigration.History.Status
import SchemaMigration.Time.Printer
import SchemaMigration.Text.JsonString

/-!
# Reports of the state

`statusTable` : the entries as a table with four columns.
`statusJson`  : the entries as JSON, two blanks to a level.
-/

namespace SchemaMigration

set_option autoImplicit false

def padStart (width : Nat) (s : String) : String :=
  String.ofList (List.replicate (width - s.length) ' ') ++ s

def padEnd (width : Nat) (s : String) : String :=
  s ++ String.ofList (List.replicate (width - s.length) ' ')

/-! ## The table -/

/-- One row of the table: the version to the right, the rest to the left. -/
def tableRow (version state applied name : String) : String :=
  padStart 8 version ++ "  " ++ padEnd 8 state ++ "  " ++ padEnd 25 applied ++ "  " ++ name ++ "\n"

/-- The row of an entry, with a dash for a version that was not applied. -/
def StatusEntry.row (e : StatusEntry) : String :=
  let applied := match e.state.since? with
    | some t => t.inTable
    | none => "-"
  tableRow (toString e.version) e.state.name applied e.name

/-- The entries as a table with a heading, or a line that says there are none. -/
def statusTable (es : List StatusEntry) : String :=
  if es.isEmpty then "no migrations found\n"
  else tableRow "VERSION" "STATE" "APPLIED" "NAME" ++ String.join (es.map (·.row))

/-! ## JSON -/

def StatusEntry.members (e : StatusEntry) : List (String × String) :=
  [("version", toString e.version), ("name", Text.jsonString e.name), ("state", Text.jsonString e.state.name)] ++
    (e.state.since?.map fun t => ("applied_at", Text.jsonString t.rfc3339)).toList

def StatusEntry.json (e : StatusEntry) : String :=
  "  \x7b\n" ++ ",\n".intercalate (e.members.map fun p => "    " ++ Text.jsonString p.1 ++ ": " ++ p.2) ++ "\n  \x7d"

def statusJson (es : List StatusEntry) : String :=
  if es.isEmpty then "[]" else "[\n" ++ ",\n".intercalate (es.map (·.json)) ++ "\n]"

end SchemaMigration
