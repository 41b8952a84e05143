import SchemaMigration.Command.Failure
import SchemaMigration.History.Report
import SchemaMigration.Run.Migrate
import SchemaMigration.Settings.Basic

/-!
# Commands

`Command`         : what a user can ask for.
`Remark`          : what is reported while a command works: milestones of the command and events of its run.
`Command.perform` : a command, with what it prints, by whatever carries out runs.
-/

namespace SchemaMigration

set_option autoImplicit false

structure MigrateOptions where
  /-- Only says what would be done. -/
  dryRun : Bool
  createDatabase : Bool
  severalStatements : Bool
  drift : DriftPolicy
  deriving DecidableEq, Repr

def MigrationSettings.options (s : MigrationSettings) : MigrateOptions :=
  ⟨false, s.createDatabase, s.severalStatements, s.drift⟩

inductive Command
  | migrate (o : MigrateOptions)
  | status (json : Bool)
  | unlock
  deriving DecidableEq, Repr

/-! ## Remarks -/

inductive Milestone
  | dryRun
  | started
  | applied (version : Version) (name : String)
  | finished
  deriving DecidableEq, Repr

def Milestone.message : Milestone → String
  | dryRun => "dry run, nothing will be applied"
  | started => "STARTED MIGRATING DATABASE....."
  | applied .. => "applied"
  | finished => "DATABASE MIGRATION FINISHED OK."

def Milestone.topic : String := "migrate"

inductive Remark
  | milestone (m : Milestone)
  | event (e : Event)
  deriving DecidableEq, Repr

/-- What became of a command: how it ended, what it printed, and its remarks in order. -/
structure Outcome where
  result : Except Failure Unit
  printed : String
  remarks : List Remark

/-- The outcome of a run. `before` are the milestones ahead of it; `tell` gives what is printed and the milestones after
it if it goes well. -/
def Run.Conclusion.outcome {α : Type} (c : Run.Conclusion α) (attempt : String) (before : List Milestone)
    (tell : α → String × List Milestone) : Outcome :=
  let remarks := before.map Remark.milestone ++ c.events.map Remark.event
  match c.result with
  | .ok a => ⟨.ok (), (tell a).1, remarks ++ (tell a).2.map Remark.milestone⟩
  | .error f => ⟨.error (.command attempt f), "", remarks⟩

/-! ## What is printed -/

def StatusEntry.wouldApply (e : StatusEntry) : String :=
  "would apply " ++ padStart 6 (toString e.version) ++ "  " ++ e.name ++ "\n"

def Plan.text (p : Plan) (database : String) (create : Bool) : String :=
  let missing := if p.databaseExists then "" else
    "database `" ++ database ++ "` does not exist" ++ (if create then " and would be created" else "") ++ "\n"
  let pending := if p.pending.isEmpty then "nothing to apply\n" else String.join (p.pending.map (·.wouldApply))
  missing ++ pending

def statusText (json : Bool) (es : List StatusEntry) : String := if json then statusJson es ++ "\n" else statusTable es

def unlockText (removed : Bool) : String := if removed then "lock removed\n" else "no lock was held\n"

/-! ## Performing -/

namespace Command

def milestones (r : Report) : List Milestone := r.applied.map (fun a => .applied a.version a.name) ++ [.finished]

variable {m : Type → Type} [Functor m]

def performMigrate (carryOut : {α : Type} → Run α → m (Run.Conclusion α)) (o : MigrateOptions) (c : Connection)
    (folder : Folder) (holder : String) : m Outcome :=
  if o.dryRun then
    (·.outcome "failed to plan migrations" [.dryRun] fun p => (p.text c.database o.createDatabase, [])) <$>
      carryOut (Run.plan folder)
  else
    (·.outcome ("migration of database `" ++ c.database ++ "` failed") [.started] fun r => ("", milestones r)) <$>
      carryOut (Run.migrate ⟨c.database, c.user, holder, o.createDatabase, o.severalStatements, o.drift⟩ folder)

/-- A command on the migrations in a folder. `holder` is the name under which a run takes the lock. -/
def perform (carryOut : {α : Type} → Run α → m (Run.Conclusion α)) (cmd : Command) (c : Connection) (folder : Folder)
    (holder : String) : m Outcome :=
  match cmd with
  | migrate o => performMigrate carryOut o c folder holder
  | status json =>
    (·.outcome "failed to read migration status" [] fun es => (statusText json es, [])) <$> carryOut (Run.status folder)
  | unlock =>
    (·.outcome "failed to clear migration lock" [] fun removed => (unlockText removed, [])) <$> carryOut Run.forceUnlock

end Command

end SchemaMigration
