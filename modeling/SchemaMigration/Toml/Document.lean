import SchemaMigration.Toml.Value
import SchemaMigration.Toml.Text
import SchemaMigration.Toml.Scalar

/-!
# Documents of TOML

`readKey`         : a dotted key.
`readValue`       : a value.
`Entries.ofText?` : the top table of a document.
-/

namespace SchemaMigration.Toml

set_option autoImplicit false

/-! ## Keys -/

def isKeyChar (c : Char) : Bool := c.isAlphanum || c == '_' || c == '-'

/-- One step of a key: a text in quotes or a bare word. -/
def readStep (s : List Char) : Option (String × List Char) :=
  if s.head? == some '"' || s.head? == some '\'' then shortText s
  else
    let word := s.takeWhile isKeyChar
    if word.isEmpty then none else some (String.ofList word, s.dropWhile isKeyChar)

def readSteps : Nat → List Char → Option (List String × List Char)
  | 0, _ => none
  | fuel + 1, s => do
    let (step, s) ← readStep (blanks s)
    match blanks s with
    | '.' :: r =>
      let (more, s) ← readSteps fuel r
      return (step :: more, s)
    | s => return ([step], s)

/-- A dotted key and the characters after it and the blanks around it. -/
def readKey (s : List Char) : Option (List String × List Char) := readSteps (s.length + 1) s

/-! ## Values -/

mutual

def readValue : Nat → List Char → Option (Value × List Char)
  | 0, _ => none
  | _, [] => none
  | fuel + 1, c :: r => do
    let s := c :: r
    if c == '"' || c == '\'' then
      let (t, s) ← quotedText s
      return (.text t, s)
    else if c == '[' then
      let (items, s) ← readItems fuel (gaps (r.length + 1) r)
      return (.list items, s)
    else if c == '{' then
      match blanks r with
      | '}' :: s => return (.braces [], s)
      | s =>
        let (entries, s) ← readPairs fuel [] s
        return (.braces entries, s)
    else if ['t', 'r', 'u', 'e'].isPrefixOf s then return (.truth true, s.drop 4)
    else if ['f', 'a', 'l', 's', 'e'].isPrefixOf s then return (.truth false, s.drop 5)
    else
      match moment? s with
      | some s => return (.moment, s)
      | none => return (.number, ← number? s)

/-- The items of a list up to its closing bracket; a comma may stand after the last. -/
def readItems : Nat → List Char → Option (List Value × List Char)
  | 0, _ => none
  | fuel + 1, s => do
    if s.head? == some ']' then return ([], s.tail)
    let (v, s) ← readValue fuel s
    match gaps (s.length + 1) s with
    | ',' :: r =>
      let (more, s) ← readItems fuel (gaps (r.length + 1) r)
      return (v :: more, s)
    | ']' :: r => return ([v], r)
    | _ => none

/-- The pairs of a table in braces up to its closing brace, added to the entries; a comma has a pair after it. -/
def readPairs : Nat → Entries → List Char → Option (Entries × List Char)
  | 0, _, _ => none
  | fuel + 1, es, s => do
    let (key, s) ← readKey s
    if s.head? != some '=' then none
    let (v, s) ← readValue fuel (blanks s.tail)
    let es ← place? key v es
    match blanks s with
    | ',' :: r => readPairs fuel es r
    | '}' :: r => return (es, r)
    | _ => none

end

/-! ## Lines -/

def readPair (b : Builder) (s : List Char) : Option (Builder × List Char) := do
  let (key, s) ← readKey s
  if s.head? != some '=' then none
  let (v, s) ← readValue (2 * s.length + 2) (blanks s.tail)
  return (← b.add key v, ← restOfLine s)

def readHeading (b : Builder) (s : List Char) : Option (Builder × List Char) := do
  match s with
  | '[' :: '[' :: r =>
    let (key, s) ← readKey r
    unless [']', ']'].isPrefixOf s do none
    return (← b.openItem? key, ← restOfLine (s.drop 2))
  | '[' :: r =>
    let (key, s) ← readKey r
    if s.head? != some ']' then none
    return (← b.open? key, ← restOfLine s.tail)
  | _ => none

def readLines : Nat → Builder → List Char → Option Builder
  | 0, _, _ => none
  | fuel + 1, b, s => do
    match blanks s with
    | [] => return b
    | '#' :: r => readLines fuel b (← lineEnd (comment ('#' :: r)))
    | '\n' :: r => readLines fuel b r
    | '\r' :: r => readLines fuel b (← newline? ('\r' :: r))
    | '[' :: r => let (b, s) ← readHeading b ('[' :: r); readLines fuel b s
    | s => let (b, s) ← readPair b s; readLines fuel b s

def Entries.ofText? (s : String) : Option Entries := do
  let s := s.toList
  let s := if s.head? == some '\uFEFF' then s.tail else s
  (← readLines (s.length + 1) .start s).close

end SchemaMigration.Toml
