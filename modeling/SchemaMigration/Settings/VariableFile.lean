import SchemaMigration.Settings.Layer
import SchemaMigration.Text.Blank
import SchemaMigration.Text.Character

/-!
# Files of variables

`VariableFile.lines`     : the lines of a file; quotes that stay open join them.
`VariableFile.readLine`  : the variable that a line sets.
`Environment.withFile`   : an environment with the variables of a file that it does not have yet.

Values may stand in quotes and may name other variables after a dollar sign. What follows a line that cannot be read does
not count.
-/

namespace SchemaMigration

set_option autoImplicit false

namespace VariableFile

open Text (isAlphanumeric isBlank trimEnd trimStart)

/-! ## Lines -/

inductive LineState
  | plain
  | afterBlank
  | afterBackslash
  | quoted (mark : Char) (afterBackslash : Bool)
  deriving DecidableEq, Repr

def LineState.enter (c : Char) : LineState :=
  if c == '\\' then afterBackslash else if c == '"' || c == '\'' then quoted c false else plain

/-- The state after a character; none if a comment begins. -/
def LineState.next? (s : LineState) (c : Char) : Option LineState :=
  match s with
  | plain => some (if isBlank c && c != '\n' && c != '\r' then afterBlank else enter c)
  | afterBlank => if c == '#' then none else some (enter c)
  | afterBackslash => some plain
  | quoted mark true => some (quoted mark false)
  | quoted mark false =>
    some (if c == '\\' then quoted mark true else if c == mark then plain else quoted mark false)

/-- The text up to a comment, and the state at its end; none if a comment ended it. -/
def scan (s : LineState) : List Char → List Char × Option LineState
  | [] => ([], some s)
  | c :: r =>
    match s.next? c with
    | none => ([], none)
    | some s =>
      let (kept, s) := scan s r
      (c :: kept, s)

def withoutLineEnd (s : List Char) : List Char :=
  match s.reverse with
  | '\n' :: '\r' :: r | '\n' :: r => r.reverse
  | _ => s

/-- Lines joined where quotes stay open. A line that is no text, or that is still open at the end, is none. `before` is
what was read of the line so far. -/
def joinLines (before : List Char) (s : LineState) : List (Option (List Char)) → List (Option (List Char))
  | [] => if s == .plain then [] else [none]
  | none :: _ => [none]
  | some l :: rest =>
    let all := before ++ l
    if (trimStart all).head? == some '#' then some [] :: joinLines [] .plain rest
    else match scan s l with
      | (kept, none) => some (before ++ kept) :: joinLines [] .plain rest
      | (_, some .plain) => some (withoutLineEnd all) :: joinLines [] .plain rest
      | (_, some s) => joinLines all s rest

/-- Bytes cut after every line end. `line` are the bytes of the line so far, the last first. -/
def cutLines (line : List UInt8) : List UInt8 → List (List UInt8)
  | [] => if line.isEmpty then [] else [line.reverse]
  | b :: r => if b == 10 then (b :: line).reverse :: cutLines [] r else cutLines (b :: line) r

def byteOrderMark : List UInt8 := [0xEF, 0xBB, 0xBF]

def lines (bytes : List UInt8) : List (Option (List Char)) :=
  let bytes := if byteOrderMark.isPrefixOf bytes then bytes.drop 3 else bytes
  joinLines [] .plain ((cutLines [] bytes).map fun l => (String.fromUTF8? ⟨l.toArray⟩).map (·.toList))

/-! ## Values -/

/-- Where the reading of a value stands. Names of variables are collected with their last character first. -/
inductive ValueState
  | text (quoted : Bool)
  | afterBackslash (quoted : Bool)
  | literal
  | name (quoted braced : Bool) (letters : List Char)
  | finished
  deriving DecidableEq, Repr

def valueOf (env : Environment) (letters : List Char) : List Char :=
  ((env (String.ofList letters.reverse)).getD "").toList

def unescape? (c : Char) : Option Char :=
  if c == '\\' || c == '\'' || c == '"' || c == '$' || c == ' ' then some c else if c == 'n' then some '\n' else none

def readValue (env : Environment) : ValueState → List Char → Option (List Char)
  | .finished, [] => some []
  | .finished, c :: r => if c == ' ' || c == '\t' then readValue env .finished r else if c == '#' then some [] else none
  | .afterBackslash quoted, [] => if quoted then none else some []
  | .afterBackslash quoted, c :: r => do
    let c ← unescape? c
    return c :: (← readValue env (.text quoted) r)
  | .literal, [] => none
  | .literal, c :: r => if c == '\'' then readValue env (.text false) r else (readValue env .literal r).map (c :: ·)
  | .name quoted braced letters, [] => if quoted || braced then none else some (valueOf env letters)
  | .name quoted true letters, c :: r =>
    if c == '\x7d' then (readValue env (.text quoted) r).map (valueOf env letters ++ ·)
    else readValue env (.name quoted true (c :: letters)) r
  | .name quoted false letters, c :: r =>
    if isAlphanumeric c then readValue env (.name quoted false (c :: letters)) r
    else if c == '\x7b' && letters.isEmpty then readValue env (.name quoted true []) r
    else if c == '$' then (readValue env (.name quoted false []) r).map (valueOf env letters ++ ·)
    else (readValue env (.text quoted) r).map fun v => valueOf env letters ++ c :: v
  | .text quoted, [] => if quoted then none else some []
  | .text true, c :: r =>
    if c == '$' then readValue env (.name true false []) r
    else if c == '"' then readValue env (.text false) r
    else if c == '\\' then readValue env (.afterBackslash true) r
    else (readValue env (.text true) r).map (c :: ·)
  | .text false, c :: r =>
    if c == '$' then readValue env (.name false false []) r
    else if c == '\'' then readValue env .literal r
    else if c == '"' then readValue env (.text true) r
    else if c == '\\' then readValue env (.afterBackslash false) r
    else if c == ' ' || c == '\t' then readValue env .finished r
    else (readValue env (.text false) r).map (c :: ·)

/-! ## Variables -/

inductive Line
  | nothing
  | variable (name value : String)
  deriving DecidableEq, Repr

def isNameStart (c : Char) : Bool := c.isAlpha || c == '_'

def isNameChar (c : Char) : Bool := c.isAlphanum || c == '_' || c == '.'

def readName? : List Char → Option (List Char × List Char)
  | [] => none
  | c :: r => if isNameStart c then some (c :: r.takeWhile isNameChar, trimStart (r.dropWhile isNameChar)) else none

/-- The name that a line sets and what follows the equals sign; `export` may stand before the name. -/
def readHead? (s : List Char) : Option (List Char × List Char) := do
  match ← readName? s with
  | (name, '=' :: r) => some (name, trimStart r)
  | (word, r) =>
    if word != "export".toList then none
    else match ← readName? r with
      | (name, '=' :: r) => some (name, trimStart r)
      | _ => none

/-- Whether nothing is left of a line, or a comment only. -/
def isOver (s : List Char) : Bool := s.isEmpty || s.head? == some '#'

def readLine (env : Environment) (line : List Char) : Option Line := do
  let s := trimStart (trimEnd line)
  if isOver s then return .nothing
  let (name, r) ← readHead? s
  if isOver r then return .variable (String.ofList name) ""
  return .variable (String.ofList name) (String.ofList (← readValue env (.text false) r))

end VariableFile

/-- The environment with a variable that it does not have yet; one that it has is kept. -/
def Environment.withDefault (env : Environment) (name value : String) : Environment := fun n =>
  if n == name then some ((env n).getD value) else env n

/-- The environment with the variables of lines, up to the first that cannot be read. -/
def Environment.withLines (env : Environment) : List (Option (List Char)) → Environment
  | [] | none :: _ => env
  | some l :: rest =>
    match VariableFile.readLine env l with
    | none => env
    | some .nothing => env.withLines rest
    | some (.variable name value) => (env.withDefault name value).withLines rest

def Environment.withFile (env : Environment) (bytes : List UInt8) : Environment :=
  env.withLines (VariableFile.lines bytes)

end SchemaMigration
