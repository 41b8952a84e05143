import SchemaMigration.Time.Instant

/-!
# Printing times

`Instant.rfc3339` : the date, `T`, the time of day with the fewest of none, three, six or nine digits of fraction that
are exact, and a zone.
`Instant.inTable` : the date, the time of day and `UTC`, the fraction dropped.
-/

namespace SchemaMigration.Time

set_option autoImplicit false

def zeroPadded (width n : Nat) : List Char :=
  let ds := Nat.toDigits 10 n
  List.replicate (width - ds.length) '0' ++ ds

/-- A year in four digits, with a sign if it lies outside the years 0 to 9999. -/
def yearText (y : Int) : List Char :=
  if 0 ≤ y && y ≤ 9999 then zeroPadded 4 y.toNat
  else (if y < 0 then '-' else '+') :: zeroPadded 4 y.natAbs

def Date.text (d : Date) : List Char :=
  yearText d.year ++ '-' :: zeroPadded 2 d.month ++ '-' :: zeroPadded 2 d.day

def Fields.clockText (f : Fields) : List Char :=
  zeroPadded 2 f.hour ++ ':' :: zeroPadded 2 f.minute ++ ':' :: zeroPadded 2 f.second

/-- A fraction of a second with its point, in the fewest of none, three, six or nine digits that are exact. -/
def fractionText (nanos : Nat) : List Char :=
  if nanos == 0 then []
  else if nanos % 1000000 == 0 then '.' :: zeroPadded 3 (nanos / 1000000)
  else if nanos % 1000 == 0 then '.' :: zeroPadded 6 (nanos / 1000)
  else '.' :: zeroPadded 9 nanos

/-- An instant in universal time, with `zone` for the zone. -/
def Instant.textIn (zone : List Char) (t : Instant) : List Char :=
  let f := t.fields
  f.date.text ++ 'T' :: f.clockText ++ fractionText f.nanos ++ zone

def Instant.rfc3339 (t : Instant) : String := String.ofList (t.textIn ['Z'])

/-- An instant with the zone `+00:00`, as it is stored. -/
def Instant.stored (t : Instant) : String := String.ofList (t.textIn "+00:00".toList)

def Instant.inTable (t : Instant) : String :=
  let f := t.fields
  String.ofList (f.date.text ++ ' ' :: f.clockText ++ " UTC".toList)

end SchemaMigration.Time
