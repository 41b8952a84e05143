import SchemaMigration.Command.Basic
import SchemaMigration.CommandLine.Words
import SchemaMigration.Settings.Layer

/-!
# Invocations

`Invocation`          : what a command line asks for.
`Invocation.read`     : the invocation that words spell.
`Invocation.command`  : the command, once the settings are known.

Options that hold for every command may stand before or after the command's name; after it they count more.
-/

namespace SchemaMigration.CommandLine

set_option autoImplicit false

inductive Switch
  | config
  | logLevel
  | logFormat
  | engine
  | host
  | user
  | password
  | database
  | cluster
  | migrationsDir
  | dryRun
  | noCreate
  | singleStatement
  | drift
  | json
  | help
  | version
  deriving DecidableEq, Repr

/-! ## Forms -/

def isPath (s : String) : Bool := s != ""

def isLogFormat (s : String) : Bool := ["compact", "pretty", "json"].contains s

def helpForm : OptionForm Switch := ⟨.help, "help", some 'h', .stops .help⟩

def commonForms : List (OptionForm Switch) :=
  let text (id : Switch) (long : String) : OptionForm Switch := ⟨id, long, none, .takes fun _ => true⟩
  [⟨.config, "config", some 'c', .takes isPath⟩, ⟨.logLevel, "log-level", some 'L', .takes fun _ => true⟩,
    ⟨.logFormat, "log-format", none, .takes isLogFormat⟩,
    ⟨.engine, "engine", none, .takes fun s => (EngineKind.read s).toOption.isSome⟩, text .host "host",
    text .user "user", text .password "password", text .database "database", text .cluster "cluster",
    ⟨.migrationsDir, "migrations-dir", none, .takes isPath⟩, helpForm]

def commandNames : List String := ["migrate", "status", "unlock"]

def helpName : String := "help"

/-- What may be written before the name of a command. -/
def topForms : Forms Switch :=
  ⟨commonForms ++ [⟨.version, "version", some 'V', .stops .version⟩], commandNames ++ [helpName]⟩

def ownForms (command : String) : List (OptionForm Switch) :=
  let flag (id : Switch) (long : String) : OptionForm Switch := ⟨id, long, none, .flag⟩
  if command == "migrate" then
    [flag .dryRun "dry-run", flag .noCreate "no-create-db", flag .singleStatement "single-statement",
      ⟨.drift, "drift", none, .takes fun s => (DriftPolicy.read s).toOption.isSome⟩]
  else if command == "status" then [flag .json "json"]
  else []

def commandForms (command : String) : Forms Switch := ⟨commonForms ++ ownForms command, []⟩

/-! ## Invocations -/

inductive Request
  | migrate (dryRun noCreate singleStatement : Bool) (drift : Option DriftPolicy)
  | status (json : Bool)
  | unlock
  deriving DecidableEq, Repr

structure Invocation where
  config : Option String
  logLevel : Option String
  /-- What takes precedence over the settings. -/
  layer : Layer
  request : Request
  deriving DecidableEq, Repr

def Request.of (command : String) (value? : Switch → Option String) : Request :=
  let has (s : Switch) : Bool := (value? s).isSome
  if command == "migrate" then
    .migrate (has .dryRun) (has .noCreate) (has .singleStatement)
      ((value? .drift).bind fun s => (DriftPolicy.read s).toOption)
  else if command == "status" then .status (has .json)
  else .unlock

def layerOf (value? : Switch → Option String) : Layer where
  engine := (value? .engine).bind fun s => (EngineKind.read s).toOption
  host := value? .host
  user := value? .user
  password := value? .password
  name := value? .database
  cluster := value? .cluster
  migrationsDir := value? .migrationsDir

/-- Whether the words after the request for help are the name of a command, or none. -/
def isHelpTopic : List String → Bool
  | [] => true
  | [name] => (commandNames ++ [helpName]).contains name
  | _ => false

namespace Invocation

def read (words : List String) : Except Stop Invocation := do
  let top ← topForms.read words
  match top.command with
  | none => throw .usage
  | some (command, rest) =>
    if command == helpName then throw (if isHelpTopic rest then .help else .usage)
    let own ← (commandForms command).read rest
    let value? (s : Switch) : Option String := (own.given ++ top.given).lookup s
    return ⟨value? .config, value? .logLevel, layerOf value?, .of command value?⟩

/-- The command, once the settings are known: options can only narrow what `migrate` may do, or change its policy. -/
def command (i : Invocation) (s : Settings) : Command :=
  match i.request with
  | .migrate dryRun noCreate singleStatement drift =>
    let o := s.migrations.options
    .migrate ⟨dryRun, o.createDatabase && !noCreate, o.severalStatements && !singleStatement, drift.getD o.drift⟩
  | .status json => .status json
  | .unlock => .unlock

end Invocation

end SchemaMigration.CommandLine
