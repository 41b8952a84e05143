import SchemaMigration.Sql.Binary64
import SchemaMigration.Text.Character
import SchemaMigration.Text.IllFormed

/-!
# Values in tables

`Value`         : what a cell of a table holds.
`Value.same`    : whether two values are the same to a comparison, which does not tell kinds of numbers apart.
`Decimal.read?` : the number that a text begins with.
`Affinity`      : the kind of values that a column prefers, which its declared type decides.
`Affinity.take` : a value as a column of that affinity stores it.
-/

namespace SchemaMigration.Sql

set_option autoImplicit false

/-- What a cell holds: an integer of 64 bits, a number with a point, a text, which may be ill-formed, or bytes. -/
inductive Value
  | null
  | integer (n : Int64)
  | real (x : Binary64)
  | text (s : String)
  | illFormed (t : Text.IllFormed)
  | blob (bytes : List UInt8)
  deriving DecidableEq, Repr

/-- Whether two values are the same number, or the same text or bytes. -/
def Value.same : Value → Value → Bool
  | integer n, real x | real x, integer n => x.toInt? == some n.toInt
  | v, w => v == w

/-! ## Numbers in texts -/

/-- A number as it is spelled: its digits, how many of them stand after the point, and the exponent. It is whole if it has
neither a point nor an exponent. -/
structure Decimal where
  digits : Nat
  places : Nat
  exponent : Int
  whole : Bool

def natOfDigits (ds : List Char) : Nat := ds.foldl (fun n d => 10 * n + (d.toNat - '0'.toNat)) 0

/-- A sign, of which nothing is left if there is none, and what follows it. -/
def readSign : List Char → Bool × List Char
  | '-' :: r => (true, r)
  | '+' :: r => (false, r)
  | r => (false, r)

/-- The exponent that a text begins with, and what follows it; a letter without digits is no exponent. -/
def readExponent? : List Char → Option (Int × List Char)
  | e :: r =>
    if e == 'e' || e == 'E' then
      let (negative, r) := readSign r
      let ds := r.takeWhile Char.isDigit
      if ds.isEmpty then none
      else some (if negative then -(natOfDigits ds : Int) else natOfDigits ds, r.dropWhile Char.isDigit)
    else none
  | [] => none

/-- The number without a sign that a text begins with, and what follows it. -/
def Decimal.read? (s : List Char) : Option (Decimal × List Char) :=
  let whole := s.takeWhile Char.isDigit
  let afterWhole := s.dropWhile Char.isDigit
  let (pointed, places, rest) := match afterWhole with
    | '.' :: r => (true, r.takeWhile Char.isDigit, r.dropWhile Char.isDigit)
    | r => (false, [], r)
  if whole.isEmpty && places.isEmpty then none
  else
    let digits := natOfDigits (whole ++ places)
    match readExponent? rest with
    | some (exponent, rest) => some (⟨digits, places.length, exponent, false⟩, rest)
    | none => some (⟨digits, places.length, 0, !pointed⟩, rest)

/-- The integer of 64 bits with that value. -/
def wordOf? (n : Int) : Option Int64 :=
  if Int64.minValue.toInt ≤ n && n ≤ Int64.maxValue.toInt then some (Int64.ofInt n) else none

/-- A number as a value: a whole one is an integer if it is one of 64 bits. -/
def Decimal.value (d : Decimal) (negative : Bool) : Value :=
  let word? := if d.whole then wordOf? (if negative then -(d.digits : Int) else d.digits) else none
  match word? with
  | some n => .integer n
  | none => .real (.ofDecimal negative d.digits (d.exponent - d.places))

def isBlankInNumber (c : Char) : Bool := c == ' ' || ('\t' ≤ c && c ≤ '\r')

/-- The number that a text spells, with blanks around it. -/
def numberOf? (s : List Char) : Option Value := do
  let (negative, s) := readSign (s.dropWhile isBlankInNumber)
  let (d, rest) ← Decimal.read? s
  if rest.all isBlankInNumber then some (d.value negative) else none

/-! ## Affinities -/

/-- The kind of values that a column prefers; `integer` stands for numbers that are integers if they can be. -/
inductive Affinity
  | integer
  | real
  | text
  | none
  deriving DecidableEq, Repr

def Affinity.isNumeric (a : Affinity) : Bool := a == integer || a == real

def occursIn (word : List Char) : List Char → Bool
  | [] => word.isEmpty
  | c :: r => word.isPrefixOf (c :: r) || occursIn word r

/-- The affinity that a declared type asks for; types that name no kind prefer numbers. -/
def Affinity.ofType (type : String) : Affinity :=
  let t := Text.lowerAscii type.toList
  let has (word : String) := occursIn word.toList t
  if has "int" then .integer
  else if has "char" || has "clob" || has "text" then .text
  else if has "blob" || t.isEmpty then .none
  else if has "real" || has "floa" || has "doub" then .real
  else .integer

/-- A number as an integer, if it is one and does not lie at an end of those of 64 bits. -/
def Value.asInteger : Value → Value
  | real x =>
    match x.toInt?.bind wordOf? with
    | some n => if n == .minValue || n == .maxValue then real x else integer n
    | none => real x
  | v => v

def Value.asReal : Value → Value
  | integer n => real (.ofInt n.toInt)
  | v => v

def Affinity.take (a : Affinity) (v : Value) : Value :=
  match a, v with
  | .integer, .text s => ((numberOf? s.toList).map Value.asInteger).getD v
  | .integer, .real _ => v.asInteger
  | .real, .text s => ((numberOf? s.toList).map Value.asReal).getD v
  | .real, .integer _ => v.asReal
  | .text, .integer n => .text (toString n)
  | .text, .real x => .text x.text
  | _, v => v

end SchemaMigration.Sql
