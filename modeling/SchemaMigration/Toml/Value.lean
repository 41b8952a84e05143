/-!
# Values of TOML

`Value`        : texts, numbers, truth values, moments, lists and tables.
`Origin`       : how a table came to be, which decides what may still be added to it.
`Table.place?` : a table with a value at a dotted key.
`Builder`      : a document under way: the finished part and the table of the last heading.

Nothing may be defined twice. A table of its own heading is closed to dotted keys from elsewhere, a table made by dotted
keys is closed to headings, and tables in braces are closed to both.
-/

namespace SchemaMigration.Toml

set_option autoImplicit false

/-- How a table came to be: by its heading, as a step of a longer heading, or as a step of a dotted key. -/
inductive Origin
  | heading
  | implied
  | dotted
  deriving DecidableEq, Repr

inductive Value
  | text (s : String)
  | number
  | truth (b : Bool)
  | moment
  | list (items : List Value)
  | braces (entries : List (String × Value))
  | table (origin : Origin) (entries : List (String × Value))
  /-- A list of tables, each with a heading of its own, newest first. -/
  | tables (items : List (List (String × Value)))
  deriving Repr

/-- The values of a table by their keys, in the order they were made. -/
abbrev Entries := List (String × Value)

def putValue (es : Entries) (key : String) (v : Value) : Entries :=
  if (es.lookup key).isSome then es.map fun e => if e.1 == key then (key, v) else e else es ++ [(key, v)]

/-! ## Dotted keys -/

/-- Changes the table that the steps lead to, by way of tables that are made where nothing stands. `byKey` says whether
the steps come from a dotted key; they may not lead into a table of its own heading. -/
def descend (byKey : Bool) (change : Origin → Entries → Option Entries) :
    List String → Origin → Entries → Option Entries
  | [], origin, es => change origin es
  | step :: steps, _, es => do
    match (es.lookup step).getD (.table (if byKey then .dotted else .implied) []) with
    | .table origin inner =>
      if byKey && origin == .heading then none
      return putValue es step (.table origin (← descend byKey change steps origin inner))
    | .tables (last :: earlier) =>
      return putValue es step (.tables ((← descend byKey change steps .heading last) :: earlier))
    | _ => none

/-- The entries with a value at a dotted key, which is free and lies in this table or in tables made by dotted keys. -/
def place? (key : List String) (v : Value) (es : Entries) : Option Entries := do
  let last ← key.getLast?
  let steps := key.dropLast
  descend true (fun origin es =>
    if (origin == .dotted) == steps.isEmpty || (es.lookup last).isSome then none else some (es ++ [(last, v)]))
    steps .heading es

/-! ## Headings -/

/-- A document under way. The table of the last heading is kept apart from the rest until it is complete. -/
structure Builder where
  root : Entries
  /-- The key of the last heading and whether it adds to a list of tables. -/
  heading : Option (List String × Bool)
  table : Entries

namespace Builder

def start : Builder := ⟨[], none, []⟩

/-- Puts the complete table where its heading says. -/
def close (b : Builder) : Option Entries := do
  match b.heading with
  | none => return b.table
  | some (key, isList) =>
    let last ← key.getLast?
    descend false (fun _ es =>
      match es.lookup last with
      | none => some (putValue es last (if isList then .tables [b.table] else .table .heading b.table))
      | some (.tables ts) => if isList then some (putValue es last (.tables (b.table :: ts))) else none
      | some _ => none) key.dropLast .heading b.root

def add (b : Builder) (key : List String) (v : Value) : Option Builder := do
  return { b with table := ← place? key v b.table }

def find? : List String → Entries → Option Value
  | [], _ => none
  | [last], es => es.lookup last
  | step :: steps, es =>
    match es.lookup step with
    | some (.table _ inner) | some (.tables (inner :: _)) => find? steps inner
    | _ => none

/-- The entries without what stands at a key; the steps that lead there are made where nothing stands. -/
def remove (key : List String) (es : Entries) : Option Entries := do
  let last ← key.getLast?
  descend false (fun _ es => some (es.filter (·.1 != last))) key.dropLast .heading es

/-- A heading of one table. It may add to a table that only longer headings have made so far. -/
def open? (b : Builder) (key : List String) : Option Builder := do
  let root ← b.close
  let rest ← remove key root
  match find? key root with
  | none => return ⟨rest, some (key, false), []⟩
  | some (.table .implied es) => return ⟨rest, some (key, false), es⟩
  | some _ => none

def openItem? (b : Builder) (key : List String) : Option Builder := do
  let root ← b.close
  match find? key root with
  | none | some (.tables _) => return ⟨← descend false (fun _ es => some es) key.dropLast .heading root, some (key, true), []⟩
  | some _ => none

end Builder

end SchemaMigration.Toml
