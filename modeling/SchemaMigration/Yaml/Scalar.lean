import SchemaMigration.Yaml.Cursor

/-!
# Scalars of YAML

`Cursor.plain`  : a scalar without quotes.
`Cursor.quoted` : a scalar in single or double quotes.
`Cursor.block`  : a literal or folded scalar, whose lines are indented.

Each reader gives the text and the place after it. A line that ends inside a scalar becomes a blank; empty lines stay.
-/

namespace SchemaMigration.Yaml

set_option autoImplicit false

/-! ## Folding -/

/-- What blanks and ends of lines between two words stand for: blanks for themselves, one end of a line for a blank,
several for all but the first. -/
def foldGap (gap : List Char) : List Char :=
  match gap.filter isBreak with
  | [] => gap
  | ['\n'] => [' ']
  | '\n' :: more => more
  | breaks => breaks

/-- Whether no line of the gap has a tab left of column `indent`; `column` is missing on the first line. -/
def keepsIndent (indent : Nat) : Option Nat → List Char → Bool
  | _, [] => true
  | column, c :: r =>
    if isBreak c then keepsIndent indent (some 0) r
    else match column with
      | none => keepsIndent indent none r
      | some k => !(c == '\t' && k < indent) && keepsIndent indent (some (k + 1)) r

/-! ## Plain scalars -/

def isFlowMark (c : Char) : Bool := c == ',' || c == '[' || c == ']' || c == '{' || c == '}'

/-- Whether the text goes on with what may not follow a colon inside brackets and braces. -/
def atFlowMark : List Char → Bool
  | [] => false
  | c :: _ => isFlowMark c || c == '?'

def plainWord (flow : Bool) : List Char → Option (List Char)
  | [] => some []
  | c :: r =>
    if isGap c || (c == ':' && atGap r) || (flow && isFlowMark c) then some []
    else if flow && c == ':' && atFlowMark r then none
    else (plainWord flow r).map (c :: ·)

/-- A text, whether the line ended after it, and the place where the next token is looked for. -/
structure PlainText where
  text : List Char
  endsLine : Bool
  after : Cursor

def plainWords (flow : Bool) (indent : Nat) : Nat → List Char → Cursor → Option PlainText
  | 0, _, _ => none
  | fuel + 1, gap, c => do
    let stop : PlainText := ⟨[], gap.any isBreak, c⟩
    if c.atDocumentMark || c.head? == some '#' then return stop
    let word ← plainWord flow c.rest
    if word.isEmpty then return stop
    let text := foldGap gap ++ word
    let (gap, after) := (c.skip word.length).span isGap
    unless keepsIndent indent none gap do none
    if gap.isEmpty then return ⟨text, false, after⟩
    if !flow && after.column < indent then return ⟨text, gap.any isBreak, after⟩
    let more ← plainWords flow indent fuel gap after
    return { more with text := text ++ more.text }

/-- A plain scalar; outside brackets its further lines begin at column `indent` or later. -/
def Cursor.plain (c : Cursor) (flow : Bool) (indent : Nat) : Option PlainText :=
  plainWords flow indent (c.rest.length + 1) [] c

/-! ## Quoted scalars -/

def hexValue? (c : Char) : Option Nat :=
  if c.isDigit then some (c.toNat - '0'.toNat)
  else if 'a' ≤ c && c ≤ 'f' then some (c.toNat - 'a'.toNat + 10)
  else if 'A' ≤ c && c ≤ 'F' then some (c.toNat - 'A'.toNat + 10)
  else none

def hexChar? (n : Nat) (s : List Char) : Option Char := do
  let ds ← (s.take n).mapM hexValue?
  let v := ds.foldl (fun v d => 16 * v + d) 0
  if ds.length == n && (v < 0xD800 || (0xE000 ≤ v && v < 0x110000)) then some (Char.ofNat v) else none

/-- The character after a backslash, and how many characters spell it. -/
def escape? : List Char → Option (Char × Nat)
  | [] => none
  | 'x' :: r => (hexChar? 2 r).map (·, 3)
  | 'u' :: r => (hexChar? 4 r).map (·, 5)
  | 'U' :: r => (hexChar? 8 r).map (·, 9)
  | c :: _ =>
    let table := [('0', '\x00'), ('a', '\x07'), ('b', '\x08'), ('t', '\t'), ('\t', '\t'), ('n', '\n'), ('v', '\x0b'),
      ('f', '\x0c'), ('r', '\r'), ('e', '\x1b'), (' ', ' '), ('"', '"'), ('/', '/'), ('\\', '\\'), ('N', '\u0085'),
      ('_', '\u00a0'), ('L', '\u2028'), ('P', '\u2029')]
    (table.lookup c).map (·, 1)

/-- A word between quotes, how many characters spell it, and whether it ends in an escaped end of a line. -/
structure QuotedWord where
  text : List Char
  length : Nat
  escapesBreak : Bool

def QuotedWord.cons (c : Char) (n : Nat) (w : QuotedWord) : QuotedWord := { w with text := c :: w.text, length := n + w.length }

def quotedWord (double : Bool) : Nat → List Char → Option QuotedWord
  | 0, _ => none
  | _, [] => some ⟨[], 0, false⟩
  | fuel + 1, c :: r =>
    if isGap c || (double && c == '"') then some ⟨[], 0, false⟩
    else if !double && c == '\'' then
      match r with
      | '\'' :: r => (quotedWord double fuel r).map (.cons '\'' 2)
      | _ => some ⟨[], 0, false⟩
    else if double && c == '\\' then
      if r.head?.any isBreak then some ⟨[], 2, true⟩
      else do
        let (x, n) ← escape? r
        (quotedWord double fuel (r.drop n)).map (.cons x (n + 1))
    else (quotedWord double fuel r).map (.cons c 1)

def quotedWords (double : Bool) : Nat → Cursor → Option (List Char × Cursor)
  | 0, _ => none
  | fuel + 1, c => do
    if c.atDocumentMark then none
    let word ← quotedWord double (c.rest.length + 1) c.rest
    let c := c.skip word.length
    match c.head? with
    | none => none
    | some x =>
      if x == (if double then '"' else '\'') then return (word.text, c.step)
      let (gap, c) := c.span isGap
      let between := if word.escapesBreak then gap.filter isBreak else foldGap gap
      let (more, c) ← quotedWords double fuel c
      return (word.text ++ between ++ more, c)

def Cursor.quoted (c : Cursor) (double : Bool) : Option (List Char × Cursor) :=
  quotedWords double (c.rest.length + 1) c.step

/-! ## Block scalars -/

/-- What becomes of the ends of lines at the end of a block scalar. -/
inductive Chomping
  | strip
  | clip
  | keep
  deriving DecidableEq, Repr

def chomping? (c : Char) : Option Chomping :=
  if c == '+' then some .keep else if c == '-' then some .strip else none

structure BlockHeader where
  chomping : Chomping
  /-- How far the lines are indented, where that is said. -/
  indent : Option Nat

def Cursor.blockHeader (c : Cursor) : BlockHeader × Cursor :=
  let digit? (x : Char) : Option Nat := if x.isDigit then some (x.toNat - '0'.toNat) else none
  match c.rest with
  | x :: y :: _ =>
    match chomping? x, digit? x with
    | some ch, _ =>
      match digit? y with
      | some n => (⟨ch, some n⟩, c.skip 2)
      | none => (⟨ch, none⟩, c.step)
    | none, some n =>
      match chomping? y with
      | some ch => (⟨ch, some n⟩, c.skip 2)
      | none => (⟨.clip, some n⟩, c.step)
    | none, none => (⟨.clip, none⟩, c)
  | [x] =>
    match chomping? x, digit? x with
    | some ch, _ => (⟨ch, none⟩, c.step)
    | none, some n => (⟨.clip, some n⟩, c.step)
    | none, none => (⟨.clip, none⟩, c)
  | [] => (⟨.clip, none⟩, c)

/-- The ends of empty lines, the deepest indentation seen, and the place of the next line's text. -/
def blockBreaks (indent : Option Nat) : Nat → Nat → Cursor → Option (List Char × Nat × Cursor)
  | 0, _, _ => none
  | fuel + 1, deepest, c => do
    let run := (c.rest.takeWhile (· == ' ')).length
    let c := c.skip (indent.elim run fun n => min run (n - c.column))
    let deepest := max deepest c.column
    match c.head? with
    | none => return ([], deepest, c)
    | some x =>
      if x == '\t' && indent.all (c.column < ·) then none
      if isBreak x then
        let (more, deepest, c) ← blockBreaks indent fuel deepest c.step
        return (x :: more, deepest, c)
      else return ([], deepest, c)

/-- What is known of the line before: its end, the empty lines after it, and whether it began with a blank. -/
structure LineBefore where
  lineEnd : List Char
  empty : List Char
  blank : Bool

def LineBefore.joint (b : LineBefore) (folded blank : Bool) : List Char :=
  if folded && b.lineEnd == ['\n'] && !b.blank && !blank then (if b.empty.isEmpty then [' '] else b.empty)
  else b.lineEnd ++ b.empty

def blockLines (folded : Bool) (chomping : Chomping) (indent : Nat) :
    Nat → LineBefore → Cursor → Option (List Char × Cursor)
  | 0, _, _ => none
  | fuel + 1, before, c => do
    match c.head? with
    | some x =>
      if c.column == indent then
        let blank := isSpace x
        let (line, c) := c.span fun x => !isBreak x
        let lineEnd := c.rest.take 1
        let c := c.step
        let (empty, _, c) ← blockBreaks (some indent) (c.rest.length + 1) 0 c
        let (more, c) ← blockLines folded chomping indent fuel ⟨lineEnd, empty, blank⟩ c
        return (before.joint folded blank ++ line ++ more, c)
    | none => pure ()
    match chomping with
    | .strip => return ([], c)
    | .clip => return (before.lineEnd, c)
    | .keep => return (before.lineEnd ++ before.empty, c)

/-- A block scalar inside a block indented by `parent`, which is `none` at the top of a document. -/
def Cursor.block (c : Cursor) (folded : Bool) (parent : Option Nat) : Option (List Char × Cursor) := do
  let (header, c) := c.step.blockHeader
  if header.indent == some 0 then none
  let c ← c.skipRestOfLine
  let said := header.indent.map fun n => parent.getD 0 + n
  let (empty, deepest, c) ← blockBreaks said (c.rest.length + 1) 0 c
  let indent := said.getD (max deepest (parent.elim 1 (· + 1)))
  blockLines folded header.chomping indent (c.rest.length + 1) ⟨[], empty, false⟩ c

end SchemaMigration.Yaml
