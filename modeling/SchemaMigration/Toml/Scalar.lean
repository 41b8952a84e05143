import SchemaMigration.Time.Reader

/-!
# Numbers and moments of TOML

`moment?` : a date, a time of day, or both, with or without an offset.
`number?` : an integer of sixty-four bits in one of four bases, or a number with a point or an exponent.

Their values are not kept, since no setting is a number or a moment; what counts is where they end.
-/

namespace SchemaMigration.Toml

set_option autoImplicit false

open Time (number expect digitsValue isLeapYear daysInMonth)

/-! ## Moments -/

/-- The characters after a date that exists. -/
def date? (s : List Char) : Option (List Char) := do
  let (year, s) ← number 4 4 s
  let (month, s) ← number 2 2 (← expect '-' s)
  let (day, s) ← number 2 2 (← expect '-' s)
  if 1 ≤ month && month ≤ 12 && 1 ≤ day && day ≤ daysInMonth year month then some s else none

def clock? (s : List Char) : Option (List Char) := do
  let (hour, s) ← number 2 2 s
  let (minute, s) ← number 2 2 (← expect ':' s)
  let (second, s) ← number 2 2 (← expect ':' s)
  if hour < 24 && minute < 60 && second ≤ 60 then
    match s with
    | '.' :: r => if r.head?.any Char.isDigit then some (r.dropWhile Char.isDigit) else none
    | _ => some s
  else none

def offset? (s : List Char) : Option (List Char) :=
  match s with
  | c :: r =>
    if c == 'Z' || c == 'z' then some r
    else if c == '+' || c == '-' then do
      let (hour, r) ← number 2 2 r
      let (minute, r) ← number 2 2 (← expect ':' r)
      if hour < 24 && minute < 60 then some r else none
    else some s
  | [] => some s

/-- The characters after a date, a time of day, or both; a blank between them counts only before a time of day. -/
def moment? (s : List Char) : Option (List Char) :=
  match date? s with
  | some r =>
    match r with
    | c :: t =>
      if c == 'T' || c == 't' then clock? t >>= offset?
      else if c == ' ' then
        match number 2 2 t with
        | some (_, ':' :: _) => clock? t >>= offset?
        | _ => some r
      else some r
    | [] => some r
  | none => clock? s

/-! ## Numbers -/

/-- A run of digits in which single underscores may stand between two digits; `inside` says whether a digit came just
before. -/
def digitRun (isDigit : Char → Bool) (inside : Bool) : List Char → List Char × List Char
  | '_' :: d :: r => if inside && isDigit d then digitRun isDigit false (d :: r) else ([], '_' :: d :: r)
  | c :: r =>
    if isDigit c then
      let (more, rest) := digitRun isDigit true r
      (c :: more, rest)
    else ([], c :: r)
  | [] => ([], [])

def digitValue (c : Char) : Nat :=
  if c.isDigit then c.toNat - '0'.toNat else c.toLower.toNat - 'a'.toNat + 10

def valueIn (base : Nat) (ds : List Char) : Nat := ds.foldl (fun n d => base * n + digitValue d) 0

def isHexDigit (c : Char) : Bool := c.isDigit || ('a' ≤ c && c ≤ 'f') || ('A' ≤ c && c ≤ 'F')

/-- How many integers without a sign there are room for: half the words of sixty-four bits. -/
def integerLimit : Nat := 9223372036854775808

def hasRoom (negative : Bool) (n : Nat) : Bool := n < integerLimit || (negative && n == integerLimit)

/-- The characters after an integer in a base other than ten, whose mark has been read. -/
def basedInteger (base : Nat) (s : List Char) : Option (List Char) :=
  let (ds, r) := digitRun (fun c => isHexDigit c && digitValue c < base) false s
  if ds.isEmpty || !hasRoom false (valueIn base ds) then none else some r

def exponent? (s : List Char) : Option (List Char) :=
  let s := match s with
    | c :: r => if c == '+' || c == '-' then r else s
    | [] => s
  let (ds, r) := digitRun Char.isDigit false s
  if ds.isEmpty then none else some r

def optionalExponent (s : List Char) : Option (List Char) :=
  match s with
  | c :: r => if c == 'e' || c == 'E' then exponent? r else some s
  | [] => some s

/-- The characters after a number in base ten, whose sign has been read. -/
def decimal? (negative : Bool) (s : List Char) : Option (List Char) := do
  let (ds, r) := digitRun Char.isDigit false s
  if ds.isEmpty || (ds.head? == some '0' && 1 < ds.length) then none
  match r with
  | '.' :: t =>
    let (fs, t) := digitRun Char.isDigit false t
    if fs.isEmpty then none
    optionalExponent t
  | c :: t =>
    if c == 'e' || c == 'E' then exponent? t
    else if hasRoom negative (valueIn 10 ds) then return r
    else none
  | [] => if hasRoom negative (valueIn 10 ds) then return r else none

def number? (s : List Char) : Option (List Char) :=
  match s with
  | '0' :: 'x' :: r => basedInteger 16 r
  | '0' :: 'o' :: r => basedInteger 8 r
  | '0' :: 'b' :: r => basedInteger 2 r
  | _ =>
    let (negative, r) := match s with
      | '-' :: r => (true, r)
      | '+' :: r => (false, r)
      | r => (false, r)
    if ['i', 'n', 'f'].isPrefixOf r || ['n', 'a', 'n'].isPrefixOf r then some (r.drop 3) else decimal? negative r

end SchemaMigration.Toml
