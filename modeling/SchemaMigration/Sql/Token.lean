/-!
# Tokens of SQL

`Token`     : a word, a name in quotes, a literal or a mark, with its spelling and the place where it begins.
`tokensOf`  : the tokens of a text.

Places are counted in bytes. A token knows the text after it, so that the rest of a script can be taken up again.
-/

namespace SchemaMigration.Sql

set_option autoImplicit false

/-! ## Characters -/

/-- The mark of the order of bytes. Where a token could begin it is a blank, and inside a word it is part of the word. -/
def orderMark : Char := '\uFEFF'

def isBlank (c : Char) : Bool :=
  c == ' ' || c == '\t' || c == '\n' || c == '\x0c' || c == '\r' || c == orderMark

def startsWord (c : Char) : Bool := c.isAlpha || c == '_' || (0x80 ≤ c.toNat && c != orderMark)

def isWordChar (c : Char) : Bool := c.isAlphanum || c == '_' || c == '$' || 0x80 ≤ c.toNat

def byteLength : List Char → Nat
  | [] => 0
  | c :: r => c.utf8Size + byteLength r

/-! ## Tokens -/

inductive TokenKind
  | word
  | quotedName
  | text
  | number
  | blob
  /-- A value that is to be given from outside. -/
  | parameter
  | mark
  /-- What no token begins with, or a token in quotes that are not closed. -/
  | junk
  deriving DecidableEq, Repr

/-- A token with its spelling, where it begins, and the text after it. -/
structure Token where
  kind : TokenKind
  spelling : List Char
  place : Nat
  after : List Char
  deriving DecidableEq, Repr

/-- What stands between quotes; the closing character written twice stands for itself. -/
def unquote (close : Char) : List Char → List Char
  | [] => []
  | c :: d :: r => if c == close then (if d == close then c :: unquote close r else []) else c :: unquote close (d :: r)
  | [c] => if c == close then [] else [c]

def Token.name (t : Token) : String :=
  match t.kind, t.spelling with
  | .quotedName, q :: r | .text, q :: r => String.ofList (if q == '[' then r.dropLast else unquote q r)
  | _, s => String.ofList s

/-- How many characters a token in quotes has after its first, if it is closed. -/
def quotedLength? (close : Char) (doubles : Bool) : List Char → Option Nat
  | [] => none
  | c :: d :: r =>
    if c == close then
      if doubles && d == close then (quotedLength? close doubles r).map (· + 2) else some 1
    else (quotedLength? close doubles (d :: r)).map (· + 1)
  | [c] => if c == close then some 1 else none

/-- How many characters a number has that begins with a digit or a point. -/
def numberLength (s : List Char) : Nat :=
  let whole := s.takeWhile Char.isDigit
  let afterWhole := s.drop whole.length
  let fraction := match afterWhole with
    | '.' :: r => 1 + (r.takeWhile Char.isDigit).length
    | _ => 0
  let afterFraction := afterWhole.drop fraction
  let exponent := match afterFraction with
    | e :: r =>
      if e == 'e' || e == 'E' then
        let sign := match r with
          | x :: _ => if x == '+' || x == '-' then 1 else 0
          | [] => 0
        let digits := ((r.drop sign).takeWhile Char.isDigit).length
        if digits == 0 then 0 else 1 + sign + digits
      else 0
    | [] => 0
  whole.length + fraction + exponent

/-- The kind of the token that a text begins with, and how many characters it has. -/
def classify (c : Char) (r : List Char) : TokenKind × Nat :=
  let closed (kind : TokenKind) (close : Char) (doubles : Bool) : TokenKind × Nat :=
    match quotedLength? close doubles r with
    | some n => (kind, n + 1)
    | none => (.junk, r.length + 1)
  if c == '\'' then closed .text '\'' true
  else if c == '"' then closed .quotedName '"' true
  else if c == '`' then closed .quotedName '`' true
  else if c == '[' then closed .quotedName ']' false
  else if (c == 'x' || c == 'X') && r.head? == some '\'' then
    let digits := r.tail.takeWhile fun d => d.isDigit || ('a' ≤ d.toLower && d.toLower ≤ 'f')
    if (r.drop (digits.length + 1)).head? == some '\'' && digits.length % 2 == 0 then (.blob, digits.length + 3)
    else (.junk, min (r.length + 1) (digits.length + 3))
  else if c.isDigit || (c == '.' && r.head?.any Char.isDigit) then
    let n := numberLength (c :: r)
    let more := ((c :: r).drop n).takeWhile isWordChar
    if more.isEmpty then (.number, n) else (.junk, n + more.length)
  else if c == '?' then (.parameter, 1 + (r.takeWhile Char.isDigit).length)
  else if "$@#:".toList.contains c && r.head?.any isWordChar then (.parameter, 1 + (r.takeWhile isWordChar).length)
  else if startsWord c then (.word, 1 + (r.takeWhile isWordChar).length)
  else if "(),;.*+-/=<>!|&~%".toList.contains c then (.mark, 1)
  else (.junk, 1)

/-- How many characters of blanks and comments a text begins with. -/
def gapLength : Nat → List Char → Nat
  | 0, _ => 0
  | fuel + 1, s =>
    match s with
    | '-' :: '-' :: r =>
      let n := 2 + (r.takeWhile (· != '\n')).length
      n + gapLength fuel (s.drop n)
    | '/' :: '*' :: r =>
      let n := 2 + commentLength r
      n + gapLength fuel (s.drop n)
    | c :: r => if isBlank c then 1 + gapLength fuel r else 0
    | [] => 0
where
  /-- How many characters there are up to the end of a comment and with it. -/
  commentLength : List Char → Nat
    | '*' :: '/' :: _ => 2
    | _ :: r => 1 + commentLength r
    | [] => 0

def readTokens : Nat → Nat → List Char → List Token
  | 0, _, _ => []
  | fuel + 1, place, s =>
    let gap := gapLength (s.length + 1) s
    let place := place + byteLength (s.take gap)
    match s.drop gap with
    | [] => []
    | c :: r =>
      let (kind, n) := classify c r
      let spelling := (c :: r).take n
      let after := (c :: r).drop n
      ⟨kind, spelling, place, after⟩ :: readTokens fuel (place + byteLength spelling) after

def tokensOf (s : List Char) : List Token := readTokens (s.length + 1) 0 s

end SchemaMigration.Sql
