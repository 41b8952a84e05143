import SchemaMigration.Text.Character

/-!
# Engines and policies by name

`EngineKind`  : which database migrations are applied to.
`DriftPolicy` : what a run does about a file that was changed after it was applied.

Names are read in any case.
-/

namespace SchemaMigration

set_option autoImplicit false

open Text (lowerAsciiString)

inductive EngineKind
  | sqlite
  | clickhouse
  deriving DecidableEq, Repr, Inhabited

def EngineKind.name : EngineKind → String
  | sqlite => "sqlite"
  | clickhouse => "clickhouse"

def EngineKind.ofName? (s : String) : Option EngineKind := [sqlite, clickhouse].find? (·.name == s)

def EngineKind.read (s : String) : Except String EngineKind :=
  match ofName? (lowerAsciiString s) with
  | some k => .ok k
  | none => .error ("unknown database engine: " ++ lowerAsciiString s)

/-- What a run does about a file that was changed after it was applied: it fails, or it warns and goes on. -/
inductive DriftPolicy
  | fail
  | warn
  deriving DecidableEq, Repr, Inhabited

def DriftPolicy.name : DriftPolicy → String
  | fail => "fail"
  | warn => "warn"

def DriftPolicy.ofName? (s : String) : Option DriftPolicy := [fail, warn].find? (·.name == s)

def DriftPolicy.read (s : String) : Except String DriftPolicy :=
  match ofName? (lowerAsciiString s) with
  | some p => .ok p
  | none => .error ("unknown drift policy: " ++ lowerAsciiString s)

end SchemaMigration
