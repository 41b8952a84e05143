import SchemaMigration.Run.Event
import SchemaMigration.Text.Blank
import SchemaMigration.Text.Character

/-!
# Log filters

`Directive`       : how detailed remarks under some topics may be.
`LogFilter.read?` : the filter that a text says, directives with commas between them.
`LogFilter.shows` : whether remarks of a level under a topic are shown.

The directive for the longest beginning of a topic decides, and of two for the same beginning the later one.
-/

namespace SchemaMigration

set_option autoImplicit false

open Text (isAlphanumeric isBlank sameIgnoringCase trim)

def Level.detail : Level → Nat
  | error => 1
  | warn => 2
  | info => 3
  | debug => 4
  | trace => 5

/-- How detailed remarks under some topics may be. -/
structure Directive where
  /-- What the topics begin with. -/
  topic : List Char
  /-- The greatest detail that is shown, nothing for zero. -/
  detail : Nat
  /-- It holds only within spans or for certain fields. -/
  narrow : Bool
  deriving DecidableEq, Repr

/-! ## Reading -/

/-- The detail that is meant where none is given. -/
def fullDetail : Nat := Level.trace.detail

def readNumber? (s : List Char) : Option Nat :=
  let ds := if s.head? == some '+' then s.drop 1 else s
  if ds.isEmpty || ds.any (!·.isDigit) then none
  else some (ds.foldl (fun n d => 10 * n + (d.toNat - '0'.toNat)) 0)

/-- The names of details: `off` and the levels in any case. -/
def detailNames : List (String × Nat) :=
  ("off", 0) :: [Level.error, .warn, .info, .debug, .trace].map fun l => (l.name, l.detail)

def readDetail? (s : List Char) : Option Nat :=
  match readNumber? s with
  | some n => if n ≤ fullDetail then some n else none
  | none => (detailNames.find? fun p => sameIgnoringCase p.1.toList s).map (·.2)

/-- The detail after an equals sign; nothing there means full detail. -/
def readDetailAfter? (s : List Char) : Option Nat := if s.isEmpty then some fullDetail else readDetail? s

/-- The directive for a topic whose detail may follow after an equals sign. -/
def Directive.withDetail? (topic : List Char) (narrow : Bool) : List Char → Option Directive
  | [] => some ⟨topic, fullDetail, narrow⟩
  | '=' :: s => (readDetailAfter? s).map fun n => ⟨topic, n, narrow⟩
  | _ => none

/-- The directive for a topic and for spans; the text begins inside the bracket. -/
def Directive.ofSpan? (topic s : List Char) : Option Directive :=
  match s.dropWhile fun c => c != ']' && c != '\x7b' with
  | ']' :: r => withDetail? topic true r
  | '\x7b' :: r =>
    match r.takeWhile (· != '\x7d'), r.dropWhile (· != '\x7d') with
    | _ :: _, '\x7d' :: ']' :: r => withDetail? topic true r
    | _, _ => none
  | _ => none

def isTopicStart (c : Char) : Bool := c == '-' || c == ':' || c == '_' || isAlphanumeric c

/-- The directive that a text says: a detail, a topic, or both with an equals sign between them. -/
def Directive.read? (text : List Char) : Option Directive :=
  match trim text with
  | [] => none
  | '[' :: s => ofSpan? [] s
  | c :: s =>
    if !isTopicStart c then none
    else
      let isEnd (c : Char) : Bool := c == '=' || c == '['
      let topic := (c :: s).takeWhile (!isEnd ·)
      match (c :: s).dropWhile (!isEnd ·) with
      | '[' :: r => ofSpan? topic r
      | [] =>
        match readDetail? topic with
        | some n => some ⟨[], n, false⟩
        | none => some ⟨topic, fullDetail, false⟩
      | r => withDetail? topic false r

structure LogFilter where
  directives : List Directive
  deriving DecidableEq, Repr

namespace LogFilter

/-- The filter that a text says; the empty text shows nothing. -/
def read? (text : String) : Option LogFilter :=
  if text.isEmpty then some ⟨[]⟩ else ((text.splitOn ",").mapM fun s => Directive.read? s.toList).map LogFilter.mk

/-! ## Deciding -/

/-- The more telling of two directives for a topic: the one with the longer beginning, else the later one. -/
def prefer (best : Option Directive) (d : Directive) : Option Directive :=
  match best with
  | some b => if b.topic.length ≤ d.topic.length then some d else some b
  | none => some d

def decisive? (f : LogFilter) (topic : String) : Option Directive :=
  (f.directives.filter fun d => !d.narrow && d.topic.isPrefixOf topic.toList).foldl prefer none

def shows (f : LogFilter) (level : Level) (topic : String) : Bool :=
  match f.decisive? topic with
  | some d => level.detail ≤ d.detail
  | none => false

end LogFilter

end SchemaMigration
