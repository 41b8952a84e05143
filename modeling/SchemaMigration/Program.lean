import SchemaMigration.Clickhouse.Engine
import SchemaMigration.CommandLine.Invocation
import SchemaMigration.CommandLine.LogFilter
import SchemaMigration.Settings.Load
import SchemaMigration.Settings.VariableFile
import SchemaMigration.Sqlite.Engine

/-!
# The program

`Launch`      : what the program is started with.
`Ending`      : what becomes of it.
`Launch.run`  : the program on a tree of files, as a dialogue with servers.

Settings are looked for in this order, and what comes later counts more: the settings file, the environment, the options.
A file of variables fills the gaps of the environment before anything is read from it.
-/

namespace SchemaMigration

set_option autoImplicit false

open CommandLine (Invocation Stop)
open Http (Request Reply)
open Sqlite (Content)
open Time (Instant)

def versionLine : String := "migrun 0.1.0\n"

def usageText : String :=
  "Usage: migrun [OPTIONS] <migrate | status | unlock>\n\n" ++
    "  migrate  apply pending migrations (--dry-run, --no-create-db, --single-statement, --drift <fail | warn>)\n" ++
    "  status   show the state of every migration (--json)\n" ++
    "  unlock   remove a lock that an interrupted run left behind\n"

structure Launch where
  words : List String
  environment : Environment
  /-- The working directory. -/
  here : FilePath
  now : Instant
  /-- The name under which a run takes the lock. -/
  holder : String

structure Ending where
  /-- Zero if it did what it was asked for, one if that failed, two if it was not asked for anything it knows. -/
  code : UInt8
  printed : String
  failure : Option Failure
  /-- The remarks that the log filter lets through. -/
  remarks : List Remark
  files : Files Content

/-- A computation that may send requests to servers; one that reaches nobody gets no reply. -/
abbrev Online (α : Type) := Dialogue Request (fun _ => Option Reply) α

def Remark.level : Remark → Level
  | milestone _ => .info
  | event e => e.level

def Remark.topic : Remark → String
  | milestone _ => Milestone.topic
  | event _ => Event.topic

def standardLogFilter : String := "info"

def logVariable : String := "RUST_LOG"

namespace Launch

variable (l : Launch) (files : Files Content)

/-! ## Settings -/

def folder : String := "/" ++ "/".intercalate l.here

/-- The bytes of the file of variables, in the working directory or the nearest one above that has one. -/
def variableFile? : Option ByteArray :=
  ((Files.ancestors l.here).reverse ++ [[]]).findSome? fun p =>
    match files.find p ".env" with
    | .ok n => n.bytes? Content.toBytes
    | .error _ => none

/-- The environment with the variables of the file in its gaps. -/
def fullEnvironment : Environment :=
  match l.variableFile? files with
  | some bytes => l.environment.withFile bytes.toList
  | none => l.environment

def settings (i : Invocation) (env : Environment) : Except Fault Settings :=
  (Settings.load files Content.toBytes l.here i.config l.folder env).map (·.overlay i.layer)

def logFilterText (i : Invocation) (env : Environment) : String :=
  (i.logLevel <|> env logVariable).getD standardLogFilter

/-! ## Running -/

def perform (s : Settings) (cmd : Command) : Online (Outcome × Files Content) :=
  let c := s.database.connection
  let folder := files.folder Content.toBytes l.here s.migrations.dir
  match s.database.engine with
  | .sqlite =>
    let carryOut {α : Type} (r : Run α) : StateM (Files Content) (Run.Conclusion α) := fun files =>
      (r.play (Sqlite.engine l.here c l.now) files).conclusion
    .done (cmd.perform carryOut c folder l.holder files)
  | .clickhouse =>
    let carryOut {α : Type} (r : Run α) : Online (Run.Conclusion α) := r.via (Clickhouse.engine c l.now)
    (·, files) <$> cmd.perform carryOut c folder l.holder

def refuse (f : Failure) : Ending := ⟨1, "", some f, [], files⟩

def conclude (filter : LogFilter) (o : Outcome) : Ending :=
  let remarks := o.remarks.filter fun r => filter.shows r.level r.topic
  match o.result with
  | .ok () => ⟨0, o.printed, none, remarks, files⟩
  | .error f => ⟨1, o.printed, some f, remarks, files⟩

def invoke (i : Invocation) (env : Environment) : Online Ending :=
  match LogFilter.read? (logFilterText i env) with
  | none => .done (refuse files (.logFilter (logFilterText i env)))
  | some filter =>
    match l.settings files i env with
    | .error f => .done (refuse files (.settings f))
    | .ok s => (fun (o, files) => conclude files filter o) <$> l.perform files s (i.command s)

def run : Online Ending :=
  match Invocation.read l.words with
  | .error .usage => .done ⟨2, "", none, [], files⟩
  | .error .help => .done ⟨0, usageText, none, [], files⟩
  | .error .version => .done ⟨0, versionLine, none, [], files⟩
  | .ok i => l.invoke files i (l.fullEnvironment files)

end Launch

end SchemaMigration
