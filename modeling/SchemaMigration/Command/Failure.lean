import SchemaMigration.Fault

/-!
# Why a command failed

`Failure`        : what was attempted and why it did not work.
`Failure.chain`  : the sentences from what was attempted down to the last cause.
`Failure.line`   : all of them in one line.
`Failure.report` : the first of them, and the causes below it one to a line.
-/

namespace SchemaMigration

set_option autoImplicit false

inductive Failure
  /-- The text says no log filter. -/
  | logFilter (text : String)
  /-- There are no settings to work with. -/
  | settings (fault : Fault)
  /-- A command was attempted, in words, and met a fault. -/
  | command (attempt : String) (fault : Fault)
  deriving DecidableEq, Repr

namespace Failure

def headline : Failure → String
  | logFilter t => "invalid log filter `" ++ t ++ "`"
  | settings f => f.message
  | command attempt _ => attempt

/-- The sentences below the top, each the cause of the one before. -/
def causes : Failure → List String
  | logFilter _ => []
  | settings f => f.cause.toList
  | command _ f => f.chain

def chain (f : Failure) : List String := f.headline :: f.causes

def line (f : Failure) : String := ": ".intercalate f.chain

/-- A text with its first line after `first` and every other line after `rest`. -/
def indented (first rest text : String) : String := first ++ ("\n" ++ rest).intercalate (text.splitOn "\n")

def blanks (n : Nat) : String := String.ofList (List.replicate n ' ')

def numbered (number : Nat) (cause : String) : String :=
  let digits := toString number
  indented (blanks (5 - digits.length) ++ digits ++ ": ") (blanks 7) cause

/-- The causes one to a line; if there are several they are numbered from zero. -/
def causeLines (causes : List String) : List String :=
  match causes with
  | [cause] => [indented (blanks 4) (blanks 4) cause]
  | causes => causes.mapIdx numbered

def report (f : Failure) : String :=
  let causes := if f.causes.isEmpty then "" else "\n\nCaused by:\n" ++ "\n".intercalate (causeLines f.causes)
  "Error: " ++ f.headline ++ causes

end Failure

end SchemaMigration
