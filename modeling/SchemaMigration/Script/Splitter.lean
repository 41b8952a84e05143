import SchemaMigration.Script.TriggerHead

/-!
# Splitting a script into statements

`Mode`     : what a character belongs to: code, a quoted region or a comment.
`Fragment` : the statement under way: its text, its code, the word being read and the depth of open blocks.
`scan`     : one pass over the characters.
`split`    : the statements of a script, or what it leaves open.

A semicolon ends a statement unless it lies in quotes, in a comment, or inside a `CASE` or the body of a trigger. The
code of a fragment is its text with every comment read as one blank and with quoted characters masked; it decides
whether the fragment is a statement at all and whether it defines a trigger.
-/

namespace SchemaMigration.Script

set_option autoImplicit false

open Text (isAlphanumeric sameIgnoringCase allBlank trim)

/-! ## Modes -/

inductive Quote
  | single
  | double
  | backquote
  | bracket
  deriving DecidableEq, Repr

def Quote.opener : Quote → Char
  | single => '\''
  | double => '"'
  | backquote => '`'
  | bracket => '['

def Quote.closer : Quote → Char
  | single => '\''
  | double => '"'
  | backquote => '`'
  | bracket => ']'

def Quote.ofOpener? (c : Char) : Option Quote :=
  if c == '\'' then some single
  else if c == '"' then some double
  else if c == '`' then some backquote
  else if c == '[' then some bracket
  else none

inductive Mode
  | code
  | quoted (q : Quote)
  | lineComment
  | blockComment
  deriving DecidableEq, Repr

/-- The mode after the mark of two characters, if they are one: `--` and `/*` in code, `*/` in a comment. -/
def Mode.pair? : Mode → Char → Char → Option Mode
  | code, '-', '-' => some lineComment
  | code, '/', '*' => some blockComment
  | blockComment, '*', '/' => some code
  | _, _, _ => none

/-- Whether `c` opens or closes quotes of some kind. -/
def isDelimiter (c : Char) : Bool := c == '\'' || c == '"' || c == '`' || c == '[' || c == ']'

/-- What quoted characters are in the code of a fragment. -/
def mask (c : Char) : Char := if isDelimiter c then c else 'x'

/-! ## The fragment under way -/

/-- The statement under way. `text`, `code` and `word` are kept newest first; `depth` counts the blocks that wait for
their `END`. -/
structure Fragment where
  text : List Char
  code : List Char
  word : List Char
  depth : Nat
  deriving DecidableEq, Repr

namespace Fragment

def empty : Fragment := ⟨[], [], [], 0⟩

def depthAfter (f : Fragment) (word : List Char) : Nat :=
  if sameIgnoringCase word "CASE".toList then f.depth + 1
  else if sameIgnoringCase word "BEGIN".toList && isTriggerHead f.code.reverse then f.depth + 1
  else if sameIgnoringCase word "END".toList then f.depth - 1
  else f.depth

def endWord (f : Fragment) : Fragment :=
  if f.word.isEmpty then f else { f with depth := f.depthAfter f.word.reverse, word := [] }

/-- The fragment after `c` was read as code: a character of a word extends it, any other ends it. -/
def readWord (f : Fragment) (c : Char) : Fragment :=
  if isAlphanumeric c || c == '_' then { f with word := c :: f.word } else f.endWord

def addText (f : Fragment) (c : Char) : Fragment := { f with text := c :: f.text }

def addCode (f : Fragment) (c : Char) : Fragment := { f with code := c :: f.code }

/-- The statement that the fragment is, if it has any code. -/
def statement? (f : Fragment) : Option (List Char) :=
  if allBlank f.code then none else some (trim f.text.reverse)

end Fragment

/-! ## One pass -/

/-- The state of a pass: the mode, the statements so far, newest first, and the fragment under way. -/
structure Scan where
  mode : Mode
  statements : List (List Char)
  fragment : Fragment
  deriving DecidableEq, Repr

namespace Scan

def start : Scan := ⟨.code, [], .empty⟩

/-- The state after the fragment under way was closed. -/
def flush (s : Scan) : Scan :=
  { s with statements := s.fragment.statement?.toList ++ s.statements, fragment := .empty }

def readCode (s : Scan) (c : Char) : Scan :=
  let f := s.fragment.readWord c
  if c == ';' && f.depth == 0 then { s with fragment := f }.flush
  else
    let mode := match Quote.ofOpener? c with
      | some q => .quoted q
      | none => .code
    { s with mode, fragment := (f.addText c).addCode c }

def readOne (s : Scan) (c : Char) : Scan :=
  match s.mode with
  | .code => s.readCode c
  | .quoted q =>
    if c == q.closer then { s with mode := .code, fragment := (s.fragment.addText c).addCode c }
    else { s with fragment := (s.fragment.addText c).addCode (mask c) }
  | .lineComment =>
    if c == '\n' then { s with mode := .code, fragment := (s.fragment.addText c).addCode c }
    else { s with fragment := s.fragment.addText c }
  | .blockComment => { s with fragment := s.fragment.addText c }

/-- The state after a mark of two characters that leads to `mode`. The mark that opens a comment ends the word before it
and is one blank of the code. -/
def readPair (s : Scan) (mode : Mode) (c d : Char) : Scan :=
  let f := match s.mode with
    | .code => s.fragment.endWord.addCode ' '
    | _ => s.fragment
  { s with mode, fragment := (f.addText c).addText d }

end Scan

def scan (s : Scan) : List Char → Scan
  | [] => s
  | [c] => s.readOne c
  | c :: d :: r =>
    match s.mode.pair? c d with
    | some mode => scan (s.readPair mode c d) r
    | none => scan (s.readOne c) (d :: r)

/-! ## The statements of a script -/

inductive Unclosed
  | string
  | identifier
  | comment
  | block
  deriving DecidableEq, Repr

def Unclosed.message : Unclosed → String
  | string => "unterminated string literal"
  | identifier => "unterminated quoted identifier"
  | comment => "unterminated block comment"
  | block => "BEGIN or CASE block is missing its END"

def Mode.unclosed? : Mode → Option Unclosed
  | code => none
  | quoted .single => some .string
  | quoted _ => some .identifier
  | lineComment => none
  | blockComment => some .comment

/-- The statements after the last character, in order. -/
def Scan.finish (s : Scan) : Except Unclosed (List (List Char)) :=
  match s.mode.unclosed? with
  | some u => .error u
  | none =>
    let s := { s with fragment := s.fragment.endWord }
    if s.fragment.depth > 0 then .error .block else .ok s.flush.statements.reverse

def splitChars (s : List Char) : Except Unclosed (List (List Char)) := (scan .start s).finish

def split (sql : String) : Except Unclosed (List String) := (splitChars sql.toList).map (·.map String.ofList)

end SchemaMigration.Script
