/-!
# Places in a YAML text

`Cursor`     : what is left of a text, with the line and the column it begins at.
`isBreak`    : the characters that end a line, once each end of a line is one character.
`unifyBreaks`: makes each end of a line one character.
-/

namespace SchemaMigration.Yaml

set_option autoImplicit false

/-! ## Characters -/

def isBreak (c : Char) : Bool := c == '\n' || c == '\u2028' || c == '\u2029'

def isSpace (c : Char) : Bool := c == ' ' || c == '\t'

def isGap (c : Char) : Bool := isSpace c || isBreak c

/-- Whether a word ends before the text. -/
def atGap : List Char → Bool
  | [] => true
  | c :: _ => isGap c

def isAllowed (c : Char) : Bool :=
  let n := c.toNat
  n == 0x9 || n == 0xA || n == 0xD || (0x20 ≤ n && n ≤ 0x7E) || n == 0x85 || (0xA0 ≤ n && n ≤ 0xFFFD) || 0x10000 ≤ n

def isNameChar (c : Char) : Bool := c.isAlphanum || c == '_' || c == '-'

/-- The text with every end of a line made one line feed; the two Unicode separators stay. -/
def unifyBreaks : List Char → List Char
  | '\r' :: '\n' :: r => '\n' :: unifyBreaks r
  | '\r' :: r => '\n' :: unifyBreaks r
  | '\u0085' :: r => '\n' :: unifyBreaks r
  | c :: r => c :: unifyBreaks r
  | [] => []

/-! ## Places -/

/-- What is left of a text, with the line, the column and the index of its first character. -/
structure Cursor where
  rest : List Char
  line : Nat
  column : Nat
  index : Nat
  deriving Repr

namespace Cursor

def start (s : List Char) : Cursor := ⟨s, 0, 0, 0⟩

def step (c : Cursor) : Cursor :=
  match c.rest with
  | [] => c
  | x :: r => if isBreak x then ⟨r, c.line + 1, 0, c.index + 1⟩ else ⟨r, c.line, c.column + 1, c.index + 1⟩

def skip (c : Cursor) : Nat → Cursor
  | 0 => c
  | n + 1 => c.step.skip n

def span (c : Cursor) (p : Char → Bool) : List Char × Cursor :=
  let taken := c.rest.takeWhile p
  (taken, c.skip taken.length)

def head? (c : Cursor) : Option Char := c.rest.head?

def startsWith (c : Cursor) (s : List Char) : Bool := s.isPrefixOf c.rest

/-- Whether a line begins here with a mark of three characters that stands alone. -/
def atMark (c : Cursor) (mark : List Char) : Bool := c.column == 0 && c.startsWith mark && atGap (c.rest.drop 3)

def atDocumentMark (c : Cursor) : Bool := c.atMark ['-', '-', '-'] || c.atMark ['.', '.', '.']

def skipComment (c : Cursor) : Cursor := if c.head? == some '#' then (c.span fun x => !isBreak x).2 else c

/-- The place after blanks, a comment and the end of the line; `none` if anything else is on the line. -/
def skipRestOfLine (c : Cursor) : Option Cursor :=
  let c := (c.span isSpace).2.skipComment
  match c.head? with
  | none => some c
  | some x => if isBreak x then some c.step else none

end Cursor

end SchemaMigration.Yaml
