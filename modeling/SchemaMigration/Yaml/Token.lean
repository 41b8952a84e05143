import SchemaMigration.Yaml.Scalar

/-!
# Tokens of YAML

`Token`       : indicators, the limits of indented blocks, properties and scalars.
`Lexer`       : the tokens so far and what decides about the next: indentation, brackets, and where a key may be.
`Token.ofText?`: the tokens of a text.

A key is known as such only when the colon after it is read; its mark is then put before it.
-/

namespace SchemaMigration.Yaml

set_option autoImplicit false

inductive Token
  | versionDirective (major minor : Nat)
  | tagDirective (handle start : List Char)
  | documentStart
  | documentEnd
  | blockListStart
  | blockMappingStart
  | blockEnd
  | flowListStart
  | flowListEnd
  | flowMappingStart
  | flowMappingEnd
  | dash
  | comma
  | key
  | value
  | anchor (name : List Char)
  | alias (name : List Char)
  | tag (handle rest : List Char)
  | scalar (plain : Bool) (text : List Char)
  deriving DecidableEq, Repr

/-- A place where a key may have begun: how many tokens came before it, and where it stands. -/
structure KeyPlace where
  tokens : Nat
  cursor : Cursor
  /-- Whether nothing but a key can stand there. -/
  required : Bool

/-- The tokens so far, newest first, and what decides about the next. -/
structure Lexer where
  cursor : Cursor
  tokens : List Token
  /-- The column of the innermost block. -/
  indent : Option Nat
  outerIndents : List (Option Nat)
  keyAllowed : Bool
  /-- The possible key inside the innermost brackets. -/
  key : Option KeyPlace
  /-- The possible keys outside the brackets, one for each open bracket. -/
  outerKeys : List (Option KeyPlace)

namespace Lexer

def start (s : List Char) : Lexer := ⟨.start s, [], none, [], true, none, []⟩

/-- Whether brackets are open. -/
def inFlow (x : Lexer) : Bool := !x.outerKeys.isEmpty

def emit (x : Lexer) (t : Token) : Lexer := { x with tokens := t :: x.tokens }

def take (x : Lexer) (n : Nat) (t : Token) : Lexer := { x.emit t with cursor := x.cursor.skip n }

/-- A token put before all but the first `n`. -/
def insertAt (x : Lexer) (n : Nat) (t : Token) : Lexer :=
  let later := x.tokens.length - n
  { x with tokens := x.tokens.take later ++ t :: x.tokens.drop later }

/-! ## Possible keys -/

/-- Whether a key that began there can no longer be one: it ends on its line, within 1024 characters. -/
def isStale (c : Cursor) (k : KeyPlace) : Bool := k.cursor.line < c.line || k.cursor.index + 1024 < c.index

/-- The possible key unless it is stale; a required one must not be. -/
def refresh (c : Cursor) (key : Option KeyPlace) : Option (Option KeyPlace) :=
  match key with
  | none => some none
  | some k => if isStale c k then (if k.required then none else some none) else some (some k)

def refreshKeys (x : Lexer) : Option Lexer := do
  return { x with key := ← refresh x.cursor x.key, outerKeys := ← x.outerKeys.mapM (refresh x.cursor) }

/-- The state once no key can have begun inside the innermost brackets. -/
def dropKey (x : Lexer) : Option Lexer :=
  if x.key.any (·.required) then none else some { x with key := none }

def markKey (x : Lexer) : Option Lexer :=
  if x.keyAllowed then
    let required := !x.inFlow && x.indent == some x.cursor.column
    x.dropKey.map fun x => { x with key := some ⟨x.tokens.length, x.cursor, required⟩ }
  else some x

/-! ## Indentation -/

/-- Opens a block at `column`, unless one is open there or brackets are; `opener` comes after the first `n` tokens. -/
def openBlock (x : Lexer) (column n : Nat) (opener : Token) : Lexer :=
  if !x.inFlow && x.indent.all (· < column) then
    { x.insertAt n opener with indent := some column, outerIndents := x.indent :: x.outerIndents }
  else x

/-- Closes the blocks, innermost first, while they are indented by `column` or more. -/
def closeFrom (column : Nat) (x : Lexer) : List (Option Nat) → Lexer
  | [] => x
  | outer :: more =>
    if x.indent.any (column ≤ ·) then
      closeFrom column { x.emit .blockEnd with indent := outer, outerIndents := more } more
    else x

/-- Closes the blocks that are indented deeper than the cursor. -/
def closeBlocks (x : Lexer) : Lexer := if x.inFlow then x else closeFrom (x.cursor.column + 1) x x.outerIndents

def closeAllBlocks (x : Lexer) : Lexer := if x.inFlow then x else closeFrom 0 x x.outerIndents

/-! ## Between tokens -/

/-- The state at the next token: blanks, comments and ends of lines are skipped. A new line may begin with a key. -/
def skipGap : Nat → Lexer → Lexer
  | 0, x => x
  | fuel + 1, x =>
    let tabs := x.inFlow || !x.keyAllowed
    let c := (x.cursor.span fun y => y == ' ' || (tabs && y == '\t')).2.skipComment
    if c.head?.any isBreak then skipGap fuel { x with cursor := c.step, keyAllowed := x.keyAllowed || !x.inFlow }
    else { x with cursor := c }

/-! ## Properties -/

def endsName : List Char → Bool
  | [] => true
  | c :: _ => isGap c || c == '?' || c == ':' || c == ',' || c == ']' || c == '}' || c == '%' || c == '@' || c == '`'

def name (x : Lexer) (token : List Char → Token) : Option Lexer := do
  let x ← x.markKey
  let (name, c) := x.cursor.step.span isNameChar
  if name.isEmpty || !endsName c.rest then none
  return { x.emit (token name) with cursor := c, keyAllowed := false }

/-- The characters of a tag; in its long form commas and brackets too. -/
def isTagChar (long : Bool) (c : Char) : Bool :=
  isNameChar c || ";/?:@&=+$.%!~*'()".toList.contains c || (long && ",[]".toList.contains c)

def unescapeTag : List Char → Option (List Char)
  | '%' :: a :: b :: r => do
    let h ← hexValue? a
    let l ← hexValue? b
    return Char.ofNat (16 * h + l) :: (← unescapeTag r)
  | '%' :: _ => none
  | c :: r => (unescapeTag r).map (c :: ·)
  | [] => some []

/-- The handle and the rest of a tag that begins here, and the place after it. -/
def readTag (c : Cursor) : Option (List Char × List Char × Cursor) := do
  if c.startsWith ['!', '<'] then
    let (uri, c) := (c.skip 2).span (isTagChar true)
    if uri.isEmpty || c.head? != some '>' then none
    return ([], ← unescapeTag uri, c.step)
  let (name, named) := c.step.span isNameChar
  if named.head? == some '!' then
    let (rest, c) := named.step.span (isTagChar false)
    if rest.isEmpty then none
    return ('!' :: name ++ ['!'], ← unescapeTag rest, c)
  let (rest, c) := c.step.span (isTagChar false)
  if rest.isEmpty then return ([], ['!'], c)
  return (['!'], ← unescapeTag rest, c)

def property (x : Lexer) : Option Lexer := do
  let x ← x.markKey
  let (handle, rest, c) ← readTag x.cursor
  unless atGap c.rest || (x.inFlow && c.head? == some ',') do none
  return { x.emit (.tag handle rest) with cursor := c, keyAllowed := false }

/-! ## Directives -/

def number (c : Cursor) : Option (Nat × Cursor) :=
  let (ds, c) := c.span Char.isDigit
  if ds.isEmpty || 9 < ds.length then none
  else some (ds.foldl (fun n d => 10 * n + (d.toNat - '0'.toNat)) 0, c)

def readDirective (name : List Char) (c : Cursor) : Option (Token × Cursor) := do
  let blanks (c : Cursor) := (c.span isSpace).2
  if name == "YAML".toList then
    let (major, c) ← number (blanks c)
    if c.head? != some '.' then none
    let (minor, c) ← number c.step
    return (.versionDirective major minor, c)
  if name == "TAG".toList then
    let c := blanks c
    if c.head? != some '!' then none
    let (handle, c) := c.step.span isNameChar
    let (close, c) := c.span (· == '!')
    if 1 < close.length || (close.isEmpty && !handle.isEmpty) || !c.head?.any isSpace then none
    let (start, c) := (blanks c).span (isTagChar true)
    if start.isEmpty || !atGap c.rest then none
    return (.tagDirective ('!' :: handle ++ close) (← unescapeTag start), c)
  none

def directive (x : Lexer) : Option Lexer := do
  let x ← x.closeAllBlocks.dropKey
  let (name, c) := x.cursor.step.span isNameChar
  if name.isEmpty || !atGap c.rest then none
  let (token, c) ← readDirective name c
  return { x.emit token with cursor := ← c.skipRestOfLine, keyAllowed := false }

/-! ## Indicators -/

def documentMark (x : Lexer) (t : Token) : Option Lexer := do
  let x ← x.closeAllBlocks.dropKey
  return { x.take 3 t with keyAllowed := false }

def openFlow (x : Lexer) (t : Token) : Option Lexer := do
  let x ← x.markKey
  return { x.take 1 t with key := none, outerKeys := x.key :: x.outerKeys, keyAllowed := true }

def closeFlow (x : Lexer) (t : Token) : Option Lexer := do
  let x ← x.dropKey
  return { x.take 1 t with key := x.outerKeys.head?.getD none, outerKeys := x.outerKeys.tail, keyAllowed := false }

def comma (x : Lexer) : Option Lexer := do
  let x ← x.dropKey
  return { x.take 1 .comma with keyAllowed := true }

def dash (x : Lexer) : Option Lexer := do
  unless x.inFlow || x.keyAllowed do none
  let x ← (x.openBlock x.cursor.column x.tokens.length .blockListStart).dropKey
  return { x.take 1 .dash with keyAllowed := true }

def questionMark (x : Lexer) : Option Lexer := do
  unless x.inFlow || x.keyAllowed do none
  let x ← (x.openBlock x.cursor.column x.tokens.length .blockMappingStart).dropKey
  return { x.take 1 .key with keyAllowed := !x.inFlow }

def colon (x : Lexer) : Option Lexer := do
  match x.key with
  | some k =>
    let x := (x.insertAt k.tokens .key).openBlock k.cursor.column k.tokens .blockMappingStart
    return { x.take 1 .value with key := none, keyAllowed := false }
  | none =>
    unless x.inFlow || x.keyAllowed do none
    let x := x.openBlock x.cursor.column x.tokens.length .blockMappingStart
    return { x.take 1 .value with keyAllowed := !x.inFlow }

/-! ## Scalars -/

def block (x : Lexer) (folded : Bool) : Option Lexer := do
  let x ← x.dropKey
  let (text, c) ← x.cursor.block folded x.indent
  return { x.emit (.scalar false text) with cursor := c, keyAllowed := true }

def quoted (x : Lexer) (double : Bool) : Option Lexer := do
  let x ← x.markKey
  let (text, c) ← x.cursor.quoted double
  return { x.emit (.scalar false text) with cursor := c, keyAllowed := false }

def plain (x : Lexer) : Option Lexer := do
  let x ← x.markKey
  let p ← x.cursor.plain x.inFlow (x.indent.elim 0 (· + 1))
  return { x.emit (.scalar true p.text) with cursor := p.after, keyAllowed := p.endsLine }

def startsPlain (flow : Bool) (c : Char) (r : List Char) : Bool :=
  if c == '-' then !r.head?.any isSpace
  else if c == '?' || c == ':' then !flow && !atGap r
  else !(isGap c || ",[]\x7b\x7d#&*!|>'\"%@`".toList.contains c)

def next (x : Lexer) (c : Char) (r : List Char) : Option Lexer :=
  let flow := x.inFlow
  if x.cursor.column == 0 && c == '%' then x.directive
  else if x.cursor.atMark ['-', '-', '-'] then x.documentMark .documentStart
  else if x.cursor.atMark ['.', '.', '.'] then x.documentMark .documentEnd
  else if c == '[' then x.openFlow .flowListStart
  else if c == '{' then x.openFlow .flowMappingStart
  else if c == ']' then x.closeFlow .flowListEnd
  else if c == '}' then x.closeFlow .flowMappingEnd
  else if c == ',' then x.comma
  else if c == '-' && atGap r then x.dash
  else if c == '?' && (flow || atGap r) then x.questionMark
  else if c == ':' && (flow || atGap r) then x.colon
  else if c == '*' then x.name .alias
  else if c == '&' then x.name .anchor
  else if c == '!' then x.property
  else if c == '|' && !flow then x.block false
  else if c == '>' && !flow then x.block true
  else if c == '\'' then x.quoted false
  else if c == '"' then x.quoted true
  else if startsPlain flow c r then x.plain
  else none

def finish (x : Lexer) : Option Lexer := x.closeAllBlocks.dropKey

def run : Nat → Lexer → Option Lexer
  | 0, _ => none
  | fuel + 1, x => do
    let x ← (skipGap (x.cursor.rest.length + 1) x).refreshKeys
    match x.cursor.rest with
    | [] => x.finish
    | c :: r => run fuel (← x.closeBlocks.next c r)

end Lexer

/-- The text without the marks of its encoding at its start. -/
def dropByteOrderMarks (s : List Char) : List Char :=
  let strip (s : List Char) : List Char := if s.head? == some '\uFEFF' then s.tail else s
  strip (strip s)

def Token.ofText? (s : List Char) : Option (List Token) :=
  let s := dropByteOrderMarks s
  if s.all isAllowed then
    (Lexer.run (s.length + 1) (.start (unifyBreaks s))).map fun x => x.tokens.reverse
  else none

end SchemaMigration.Yaml
