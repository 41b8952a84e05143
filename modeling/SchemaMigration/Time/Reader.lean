import SchemaMigration.Time.Instant
import SchemaMigration.Text.Blank

/-!
# Reading times

`Instant.ofRfc3339?` : the strict form `2026-01-02T03:04:05.678+09:00`.
`Instant.ofPlain?`   : the form `2026-01-02 03:04:05` without a zone, taken as universal time.

Every reader takes characters and gives back what it read and the rest.
-/

namespace SchemaMigration.Time

set_option autoImplicit false

open SchemaMigration.Text (trimStart)

def digitsValue (ds : List Char) : Nat := ds.foldl (fun n c => 10 * n + (c.toNat - '0'.toNat)) 0

/-- A number of at least `lo` and at most `hi` digits, as long as possible. -/
def number (lo hi : Nat) (s : List Char) : Option (Nat × List Char) :=
  let ds := (s.take hi).takeWhile Char.isDigit
  if ds.length < lo then none else some (digitsValue ds, s.drop ds.length)

def expect (c : Char) : List Char → Option (List Char)
  | [] => none
  | x :: r => if x == c then some r else none

/-- The digits of a fraction of a second, in nanoseconds; digits after the ninth are dropped. -/
def fraction (s : List Char) : Option (Nat × List Char) := do
  let ds := (s.take 9).takeWhile Char.isDigit
  if ds.isEmpty then none
  some (digitsValue (ds ++ List.replicate (9 - ds.length) '0'), s.dropWhile Char.isDigit)

def optionalFraction : List Char → Option (Nat × List Char)
  | '.' :: r => fraction r
  | s => some (0, s)

def belowSixty (s : List Char) : Option (Nat × List Char) := do
  let (n, r) ← number 2 2 s
  if n < 60 then some (n, r) else none

/-- An offset from universal time in seconds: `Z`, or a sign, hours, what `separator` takes, and minutes. -/
def zone (separator : List Char → Option (List Char)) (s : List Char) : Option (Int × List Char) :=
  match s with
  | [] => none
  | c :: r =>
    if c == 'Z' || c == 'z' then some (0, r)
    else if c == '+' || c == '-' || c == '\u2212' then do
      let (h, r) ← number 2 2 r
      let r ← separator r
      let (m, r) ← belowSixty r
      let secs : Int := h * 3600 + m * 60
      some (if c == '+' then secs else -secs, r)
    else none

def dateTimeMark : List Char → Option (List Char)
  | [] => none
  | c :: r => if c == 'T' || c == 't' || c == ' ' then some r else none

/-! ## The strict form -/

/-- Reads `2026-01-02T03:04:05.678+09:00` to its end; the zone is less than a day away. -/
def Instant.ofRfc3339? (s : List Char) : Option Instant := do
  let (year, s) ← number 4 4 s
  let (month, s) ← number 2 2 (← expect '-' s)
  let (day, s) ← number 2 2 (← expect '-' s)
  let (hour, s) ← number 2 2 (← dateTimeMark s)
  let (minute, s) ← number 2 2 (← expect ':' s)
  let (sec, s) ← number 2 2 (← expect ':' s)
  let (nanos, s) ← optionalFraction s
  let (offset, s) ← zone (expect ':') s
  if s.isEmpty && offset.natAbs < 86400 then
    Instant.ofFields? ⟨⟨year, month, day⟩, hour, minute, sec, nanos⟩ offset
  else none

/-! ## The plain form -/

/-- A year of one to four digits, or of any number of digits after a sign; leading blanks are skipped. -/
def signedYear (s : List Char) : Option (Int × List Char) :=
  match trimStart s with
  | '-' :: r => (number 1 r.length r).map fun (n, r) => (-(n : Int), r)
  | '+' :: r => (number 1 r.length r).map fun (n, r) => ((n : Int), r)
  | r => (number 1 4 r).map fun (n, r) => ((n : Int), r)

def shortNumber (s : List Char) : Option (Nat × List Char) := number 1 2 (trimStart s)

/-- Reads `2026-01-02 03:04:05`, with blanks before its numbers and short numbers allowed. -/
def Instant.ofPlain? (s : List Char) : Option Instant := do
  let (year, s) ← signedYear s
  let (month, s) ← shortNumber (← expect '-' s)
  let (day, s) ← shortNumber (← expect '-' s)
  let (hour, s) ← shortNumber s
  let (minute, s) ← shortNumber (← expect ':' s)
  let (sec, s) ← shortNumber (← expect ':' s)
  if s.isEmpty then Instant.ofFields? ⟨⟨year, month, day⟩, hour, minute, sec, 0⟩ 0 else none

end SchemaMigration.Time
