import SchemaMigration.Fault

/-!
# What a run reports while it runs

`Event`          : a warning or an error that does not end in the result alone.
`Event.message`  : its sentence.
`Event.version?` : the version it is about.
`Event.name?`    : the name of the migration it is about.
-/

namespace SchemaMigration

set_option autoImplicit false

inductive Level
  | error
  | warn
  | info
  | debug
  | trace
  deriving DecidableEq, Repr

def Level.name : Level → String
  | error => "ERROR"
  | warn => "WARN"
  | info => "INFO"
  | debug => "DEBUG"
  | trace => "TRACE"

inductive Event
  | missingFile (version : Version) (name : String)
  | outOfOrder (version : Version)
  | driftIgnored (version : Version) (name : String)
  | applyFailed (version : Version) (fault : Fault)
  | unlockFailed (fault : Fault)
  | lockRemoved
  deriving DecidableEq, Repr

namespace Event

def level : Event → Level
  | missingFile .. | outOfOrder _ | driftIgnored .. | lockRemoved => .warn
  | applyFailed .. | unlockFailed _ => .error

def message : Event → String
  | missingFile .. => "applied migration has no file on disk"
  | outOfOrder _ => "pending migration is older than the latest applied one"
  | driftIgnored .. => "applied migration changed on disk, not re-applying"
  | applyFailed _ f => f.message
  | unlockFailed f => "failed to release migration lock after error: " ++ f.message
  | lockRemoved => "stale migration lock removed"

def version? : Event → Option Version
  | missingFile v _ | outOfOrder v | driftIgnored v _ | applyFailed v _ => some v
  | unlockFailed _ | lockRemoved => none

/-- The topic under which events are logged. -/
def topic : String := "migrun_db::runner"

/-- The name of the migration that the event is about, where the event carries it. -/
def name? : Event → Option String
  | missingFile _ n | driftIgnored _ n => some n
  | _ => none

end Event

end SchemaMigration
