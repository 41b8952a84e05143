import SchemaMigration.History.Record
import SchemaMigration.Run.Dialogue
import SchemaMigration.Run.Event

/-!
# What a run asks of a database

`Call`        : the questions that every engine answers.
`Call.Answer` : what each is answered with.
`Run α`       : a computation that makes calls, reports events and ends in a value or a fault.
`Run.play`    : a run against an engine that keeps a state.
`Run.via`     : a run whose calls are put as dialogues with somebody else.
-/

namespace SchemaMigration

set_option autoImplicit false

inductive LockOutcome
  | acquired
  | heldBy (holder : String)
  deriving DecidableEq, Repr

/-- The questions that an engine answers: the first three about the database, the rest in a session on it. -/
inductive Call
  | databaseExists
  | createDatabase
  | connect
  | ensureBookkeeping
  | appliedRecords
  | tryLock (holder : String)
  | unlock (holder : String)
  | forceUnlock
  | apply (migration : Migration) (statements : List String) (user : String)
  deriving DecidableEq, Repr

/-- What a call is answered with, if it does not fail. -/
abbrev Call.Answer : Call → Type
  | databaseExists => Bool
  | createDatabase => Unit
  | connect => Unit
  | ensureBookkeeping => Unit
  | appliedRecords => List Record
  | tryLock _ => LockOutcome
  | unlock _ => Unit
  | forceUnlock => Bool
  | apply .. => Record

/-- A step of a run: a call to the engine, or an event that is reported. -/
inductive Step
  | call (c : Call)
  | note (e : Event)
  deriving DecidableEq, Repr

abbrev Step.Reply : Step → Type
  | call c => Except Fault c.Answer
  | note _ => Unit

/-- A computation that makes calls, reports events and ends in a value or a fault. -/
abbrev Run (α : Type) := ExceptT Fault (Dialogue Step Step.Reply) α

namespace Run

def call (c : Call) : Run c.Answer := ExceptT.mk (Dialogue.ask (Q := Step) (A := Step.Reply) (.call c))

def note (e : Event) : Run Unit := ExceptT.lift (Dialogue.ask (Q := Step) (A := Step.Reply) (.note e))

/-- A run whose fault is its value. -/
def attempt {α : Type} (r : Run α) : Run (Except Fault α) := ExceptT.lift r.run

/-! ## Engines with a state -/

/-- What became of a run: how it ended, the state it left, its calls and its events in order. -/
structure Played (σ α : Type) where
  result : Except Fault α
  state : σ
  calls : List Call
  events : List Event

/-- An engine: how it answers each call and what state it is in afterwards. -/
abbrev Engine (σ : Type) := (c : Call) → σ → Except Fault c.Answer × σ

def playSteps {σ α : Type} (engine : Engine σ) : Dialogue Step Step.Reply (Except Fault α) → σ → Played σ α
  | .done r, s => ⟨r, s, [], []⟩
  | .put (.call c) next, s =>
    let (a, s) := engine c s
    let p := playSteps engine (next a) s
    { p with calls := c :: p.calls }
  | .put (.note e) next, s =>
    let p := playSteps engine (next ()) s
    { p with events := e :: p.events }

def play {σ α : Type} (r : Run α) (engine : Engine σ) (s : σ) : Played σ α := playSteps engine r.run s

/-! ## Engines that ask somebody else -/

structure Conclusion (α : Type) where
  result : Except Fault α
  events : List Event

def Conclusion.after {α : Type} (e : Event) (c : Conclusion α) : Conclusion α := { c with events := e :: c.events }

def Played.conclusion {σ α : Type} (p : Played σ α) : Conclusion α × σ := (⟨p.result, p.events⟩, p.state)

variable {Q : Type} {A : Q → Type}

/-- An engine that answers each call after a dialogue with somebody else. -/
abbrev RemoteEngine (Q : Type) (A : Q → Type) := (c : Call) → Dialogue Q A (Except Fault c.Answer)

def viaSteps {α : Type} (engine : RemoteEngine Q A) :
    Dialogue Step Step.Reply (Except Fault α) → Dialogue Q A (Conclusion α)
  | .done r => .done ⟨r, []⟩
  | .put (.call c) next => (engine c).bind fun a => viaSteps engine (next a)
  | .put (.note e) next => (viaSteps engine (next ())).bind fun c => .done (c.after e)

/-- A run with every call put as a dialogue. -/
def via {α : Type} (r : Run α) (engine : RemoteEngine Q A) : Dialogue Q A (Conclusion α) := viaSteps engine r.run

end Run

end SchemaMigration
