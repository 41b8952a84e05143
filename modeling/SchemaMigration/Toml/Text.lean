/-!
# Texts of TOML

`quotedText` : a text in quotes, single or double, on one line or on several.
`blanks`     : blanks; `comment`: a comment; `lineEnd`: the end of a line.

Every reader takes the characters that are left and gives what it read with the characters after it.
-/

namespace SchemaMigration.Toml

set_option autoImplicit false

/-! ## Blanks, comments and ends of lines -/

def isBlank (c : Char) : Bool := c == ' ' || c == '\t'

def blanks (s : List Char) : List Char := s.dropWhile isBlank

def isShown (c : Char) : Bool := c == '\t' || (0x20 ≤ c.toNat && c.toNat != 0x7F)

def comment (s : List Char) : List Char := if s.head? == some '#' then s.tail.dropWhile isShown else s

def newline? : List Char → Option (List Char)
  | '\n' :: r => some r
  | '\r' :: '\n' :: r => some r
  | _ => none

/-- The characters after the end of a line or of the document. -/
def lineEnd (s : List Char) : Option (List Char) := if s.isEmpty then some [] else newline? s

/-- The characters after the rest of a line, which holds blanks and a comment only. -/
def restOfLine (s : List Char) : Option (List Char) := lineEnd (comment (blanks s))

def gaps : Nat → List Char → List Char
  | 0, s => s
  | fuel + 1, s =>
    match newline? (comment (blanks s)) with
    | some r => gaps fuel r
    | none => blanks s

/-! ## Escapes -/

def hexValue? (c : Char) : Option Nat :=
  if c.isDigit then some (c.toNat - '0'.toNat)
  else if 'a' ≤ c && c ≤ 'f' then some (c.toNat - 'a'.toNat + 10)
  else if 'A' ≤ c && c ≤ 'F' then some (c.toNat - 'A'.toNat + 10)
  else none

def hexChar? (n : Nat) (s : List Char) : Option (Char × List Char) := do
  let ds ← (s.take n).mapM hexValue?
  let v := ds.foldl (fun v d => 16 * v + d) 0
  if ds.length == n && (v < 0xD800 || (0xE000 ≤ v && v < 0x110000)) then some (Char.ofNat v, s.drop n) else none

def escape? : List Char → Option (Char × List Char)
  | 'b' :: r => some ('\x08', r)
  | 't' :: r => some ('\t', r)
  | 'n' :: r => some ('\n', r)
  | 'f' :: r => some ('\x0c', r)
  | 'r' :: r => some ('\r', r)
  | '"' :: r => some ('"', r)
  | '\\' :: r => some ('\\', r)
  | 'u' :: r => hexChar? 4 r
  | 'U' :: r => hexChar? 8 r
  | _ => none

/-- The characters after an escaped end of a line and all blank lines. -/
def escapedBreak? (s : List Char) : Option (List Char) :=
  (newline? (blanks s)).map fun r => r.dropWhile fun c => isBlank c || c == '\n' || c == '\r'

/-! ## Texts -/

/-- The rest of a text on one line, up to the closing quote. -/
def lineText (quote : Char) : Nat → List Char → Option (List Char × List Char)
  | 0, _ => none
  | _, [] => none
  | fuel + 1, c :: r => do
    if c == quote then return ([], r)
    let (x, r) ← if c == '\\' && quote == '"' then escape? r else if isShown c then some (c, r) else none
    let (text, r) ← lineText quote fuel r
    return (x :: text, r)

/-- The rest of a text on several lines, up to three closing quotes; up to two more before them belong to the text. -/
def linesText (quote : Char) : Nat → List Char → Option (List Char × List Char)
  | 0, _ => none
  | _, [] => none
  | fuel + 1, c :: r => do
    if c == quote then
      let run := 1 + (r.takeWhile (· == quote)).length
      if 3 ≤ run then
        let inside := min 2 (run - 3)
        return (List.replicate inside quote, r.drop (inside + 2))
      else
        let (text, r) ← linesText quote fuel r
        return (c :: text, r)
    else if c == '\\' && quote == '"' then
      match escapedBreak? r with
      | some r => linesText quote fuel r
      | none =>
        let (x, r) ← escape? r
        let (text, r) ← linesText quote fuel r
        return (x :: text, r)
    else
      let (x, r) ← match newline? (c :: r) with
        | some r => some ('\n', r)
        | none => if isShown c then some (c, r) else none
      let (text, r) ← linesText quote fuel r
      return (x :: text, r)

def shortText (s : List Char) : Option (String × List Char) :=
  match s with
  | c :: r => if c == '"' || c == '\'' then (lineText c s.length r).map fun (t, r) => (String.ofList t, r) else none
  | [] => none

/-- A text in quotes; three quotes open one that may run over several lines, the first of which may be empty. -/
def quotedText (s : List Char) : Option (String × List Char) :=
  match s with
  | c :: r =>
    if (c == '"' || c == '\'') && [c, c].isPrefixOf r then
      let r := r.drop 2
      (linesText c s.length ((newline? r).getD r)).map fun (t, r) => (String.ofList t, r)
    else shortText s
  | [] => none

end SchemaMigration.Toml
