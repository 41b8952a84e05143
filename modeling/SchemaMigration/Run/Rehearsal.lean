import SchemaMigration.Run.Call

/-!
# Rehearsals

`Rehearsal`        : an engine that keeps its records in memory and fails where it is told to.
`Rehearsal.answer` : how it answers a call.

Statements are not run: one that contains a given text fails its migration, all others succeed.
-/

namespace SchemaMigration

set_option autoImplicit false

/-- The calls that a rehearsal can be told to fail, whatever their arguments. -/
inductive CallKind
  | databaseExists
  | createDatabase
  | connect
  | ensureBookkeeping
  | appliedRecords
  | tryLock
  | unlock
  | forceUnlock
  deriving DecidableEq, Repr

def CallKind.name : CallKind → String
  | databaseExists => "exists"
  | createDatabase => "create"
  | connect => "connect"
  | ensureBookkeeping => "ensure"
  | appliedRecords => "applied"
  | tryLock => "try_lock"
  | unlock => "unlock"
  | forceUnlock => "force_unlock"

def CallKind.all : List CallKind :=
  [databaseExists, createDatabase, connect, ensureBookkeeping, appliedRecords, tryLock, unlock, forceUnlock]

def CallKind.ofName? (s : String) : Option CallKind := all.find? (·.name == s)

/-- The fault of a call of the kind, with a text of its own. -/
def CallKind.fault (k : CallKind) (text : String) : Fault :=
  match k with
  | databaseExists | createDatabase | connect => .connection text
  | _ => .database text

/-- The kind of a call; applying a migration is told to fail by its text instead. -/
def Call.kind? : Call → Option CallKind
  | databaseExists => some .databaseExists
  | createDatabase => some .createDatabase
  | connect => some .connect
  | ensureBookkeeping => some .ensureBookkeeping
  | appliedRecords => some .appliedRecords
  | tryLock _ => some .tryLock
  | unlock _ => some .unlock
  | forceUnlock => some .forceUnlock
  | apply .. => none

structure Rehearsal where
  databaseExists : Bool
  lockedBy : Option String
  records : List Record
  /-- The calls that fail, with the text of their faults. -/
  failures : List (CallKind × String)
  /-- The text that fails a migration whose statements contain it. -/
  poison : Option String
  applies : Nat
  deriving Repr

namespace Rehearsal

def start : Rehearsal := ⟨false, none, [], [], none, 0⟩

/-- The start of 2026. -/
def epoch : Time.Instant := ⟨1767225600, 0⟩

def failure? (s : Rehearsal) (k : CallKind) : Option String := s.failures.lookup k

def occursIn (needle : List Char) : List Char → Bool
  | [] => needle.isEmpty
  | c :: r => needle.isPrefixOf (c :: r) || occursIn needle r

def fails (s : Rehearsal) (statements : List String) : Bool :=
  match s.poison with
  | some p => statements.any fun x => occursIn p.toList x.toList
  | none => false

/-- Applies a migration: its record goes to the end, one second after the one before. -/
def apply (s : Rehearsal) (m : Migration) (statements : List String) (user : String) :
    Except Fault Record × Rehearsal :=
  if s.fails statements then (.error (.migrationFailed m.version m.name "boom"), s)
  else
    let r := m.record user (epoch.addSeconds (s.applies + 1))
    (.ok r, { s with records := s.records ++ [r], applies := s.applies + 1 })

/-- How a call that is not told to fail is answered. -/
def perform : (c : Call) → Rehearsal → Except Fault c.Answer × Rehearsal
  | .databaseExists, s => (.ok s.databaseExists, s)
  | .createDatabase, s => (.ok (), { s with databaseExists := true })
  | .connect, s => (.ok (), s)
  | .ensureBookkeeping, s => (.ok (), s)
  | .appliedRecords, s => (.ok s.records, s)
  | .tryLock holder, s =>
    match s.lockedBy with
    | some other => (.ok (.heldBy other), s)
    | none => (.ok .acquired, { s with lockedBy := some holder })
  | .unlock holder, s => (.ok (), if s.lockedBy == some holder then { s with lockedBy := none } else s)
  | .forceUnlock, s => (.ok s.lockedBy.isSome, { s with lockedBy := none })
  | .apply m statements user, s => s.apply m statements user

def answer : Run.Engine Rehearsal := fun c s =>
  match c.kind? with
  | some k =>
    match s.failure? k with
    | some text => (.error (k.fault text), s)
    | none => perform c s
  | none => perform c s

end Rehearsal

end SchemaMigration
