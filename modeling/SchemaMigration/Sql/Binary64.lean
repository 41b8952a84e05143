/-!
# Numbers with a binary point

`Binary64`           : a number of 53 binary digits and an exponent, or one that is beyond all of them.
`Binary64.ofRatio`   : the number that is nearest to a quotient.
`Binary64.ofDecimal` : the number that is nearest to a decimal.
`Binary64.toInt?`    : the integer that it is, if it is one.
`Binary64.text`      : its spelling in fifteen digits.
-/

namespace SchemaMigration.Sql

set_option autoImplicit false

/-- The number `mantissa * 2 ^ exponent`, of which the mantissa is odd, or zero with no exponent; or a number that is
beyond all of these. Zero has no sign. -/
inductive Binary64
  | finite (mantissa exponent : Int)
  | infinite (negative : Bool)
  deriving DecidableEq, Repr

namespace Binary64

/-! ## Rounding -/

/-- The integer that is nearest to `a / b`, and the even one of two that are as near. -/
def nearest (a b : Nat) : Nat :=
  let q := a / b
  let twice := 2 * (a % b)
  if b < twice || (twice == b && q % 2 == 1) then q + 1 else q

/-- The quotient `num / den` in units of `2 ^ e`, again as a quotient. -/
def inUnits (num den : Nat) (e : Int) : Nat × Nat := (num * Nat.pow 2 (-e).toNat, den * Nat.pow 2 e.toNat)

/-- The greatest `k` with `2 ^ k ≤ num / den`. -/
def binaryOrder (num den : Nat) : Int :=
  let k : Int := Nat.log2 num - Nat.log2 den
  let (a, b) := inUnits num den k
  if a < b then k - 1 else k

/-- A number without factors of two in its mantissa. `fuel` bounds how many it has. -/
def withoutTwos : Nat → Nat → Int → Nat × Int
  | 0, m, e => (m, e)
  | fuel + 1, m, e => if m % 2 == 0 then withoutTwos fuel (m / 2) (e + 1) else (m, e)

/-- The number that is nearest to `num / den`. The last of its digits stands for `2 ^ (-1074)` at least. -/
def ofRatio (negative : Bool) (num den : Nat) : Binary64 :=
  if num == 0 then finite 0 0
  else
    let e := max (binaryOrder num den - 52) (-1074)
    let (a, b) := inUnits num den e
    let (m, e) := withoutTwos 54 (nearest a b) e
    if m == 0 then finite 0 0
    else if 1024 ≤ (Nat.log2 m : Int) + e then infinite negative
    else finite (if negative then -(m : Int) else m) e

/-- The number that is nearest to `digits * 10 ^ power`. Powers by which it is out of range for certain are not computed. -/
def ofDecimal (negative : Bool) (digits : Nat) (power : Int) : Binary64 :=
  let length : Int := (Nat.toDigits 10 digits).length
  if digits == 0 || length + power < -400 then finite 0 0
  else if 400 < length + power then infinite negative
  else ofRatio negative (digits * Nat.pow 10 power.toNat) (Nat.pow 10 (-power).toNat)

def ofInt (n : Int) : Binary64 := ofRatio (n < 0) n.natAbs 1

/-- The integer that it is, if it is one: an odd mantissa is not divided by two without a rest. -/
def toInt? : Binary64 → Option Int
  | finite m e => if 0 ≤ e then some (m * (Nat.pow 2 e.toNat : Nat)) else none
  | infinite _ => none

/-! ## Spelling -/

/-- The digits of `num / den`, rounded to fifteen, and the power of ten for which the first of them stands. `fuel` bounds
the powers that are tried, from the greatest on. -/
def decimalDigits (num den : Nat) : Nat → Int → List Char × Int
  | 0, p => ([], p)
  | fuel + 1, p =>
    let (a, b) := if 0 ≤ p then (num, den * Nat.pow 10 p.toNat) else (num * Nat.pow 10 (-p).toNat, den)
    if a < b then decimalDigits num den fuel (p - 1)
    else
      -- a tie goes up, and fifteen nines may become a one with zeros
      let n := (2 * a * Nat.pow 10 14 + b) / (2 * b)
      if n == Nat.pow 10 15 then (['1'], p + 1)
      else (((Nat.toDigits 10 n).reverse.dropWhile (· == '0')).reverse, p)

def exponentText (p : Int) : List Char :=
  let ds := Nat.toDigits 10 p.natAbs
  'e' :: (if p < 0 then '-' else '+') :: (List.replicate (2 - ds.length) '0' ++ ds)

def fractionText (ds : List Char) : List Char := '.' :: if ds.isEmpty then ['0'] else ds

/-- A number from its digits and the power of ten for which the first of them stands. -/
def layOut (ds : List Char) (p : Int) : List Char :=
  if p < -4 || 15 ≤ p then ds.take 1 ++ fractionText (ds.drop 1) ++ exponentText p
  else if p < 0 then '0' :: '.' :: (List.replicate (p.natAbs - 1) '0' ++ ds)
  else
    let whole := p.toNat + 1
    ds.take whole ++ List.replicate (whole - ds.length) '0' ++ fractionText (ds.drop whole)

def text : Binary64 → String
  | infinite negative => if negative then "-Inf" else "Inf"
  | finite m e =>
    if m == 0 then "0.0"
    else
      let (num, den) := inUnits m.natAbs 1 (-e)
      let (ds, p) := decimalDigits num den 650 310
      String.ofList ((if m < 0 then ['-'] else []) ++ layOut ds p)

end Binary64

end SchemaMigration.Sql
