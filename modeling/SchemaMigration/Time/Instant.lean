import SchemaMigration.Time.Calendar

/-!
# Instants

`Instant`           : a point in time, to the nanosecond.
`Fields`            : the date and the time of day of an instant in universal time.
`Instant.ofFields?` : the instant with those fields, shifted by an offset from universal time.

A leap second is kept as the fifty-ninth second with a second's worth of nanoseconds on top.
-/

namespace SchemaMigration.Time

set_option autoImplicit false

/-- A point in time: whole seconds from the start of 1970, and nanoseconds, which reach a second only in a leap
second. -/
structure Instant where
  seconds : Int
  nanos : Nat
  deriving DecidableEq, Repr, Inhabited

def second : Nat := 1000000000

def dayLength : Int := 86400

/-- The date and the time of day; `second` is sixty in a leap second. -/
structure Fields where
  date : Date
  hour : Nat
  minute : Nat
  second : Nat
  nanos : Nat
  deriving DecidableEq, Repr

def Fields.isValid (f : Fields) : Bool :=
  f.date.isValid && f.hour < 24 && f.minute < 60 && f.second ≤ 60 && f.nanos < Time.second

def Instant.fields (t : Instant) : Fields :=
  let days := t.seconds.fdiv dayLength
  let inDay := (t.seconds - days * dayLength).toNat
  let leap := if Time.second ≤ t.nanos then 1 else 0
  { date := Date.ofDays days
    hour := inDay / 3600
    minute := inDay / 60 % 60
    second := inDay % 60 + leap
    nanos := t.nanos - leap * Time.second }

def Instant.isKept (t : Instant) : Bool :=
  let days := t.seconds.fdiv dayLength
  (⟨firstYear, 1, 1⟩ : Date).days ≤ days && days ≤ (⟨lastYear, 12, 31⟩ : Date).days

/-- The instant at which a clock `offset` seconds ahead of universal time shows the fields. -/
def Instant.ofFields? (f : Fields) (offset : Int) : Option Instant :=
  if f.isValid then
    let leap := if f.second == 60 then 1 else 0
    let inDay : Nat := f.hour * 3600 + f.minute * 60 + (f.second - leap)
    let t : Instant := ⟨f.date.days * dayLength + inDay - offset, f.nanos + leap * Time.second⟩
    if t.isKept then some t else none
  else none

def Instant.ofMillis? (ms : Int) : Option Instant :=
  let s := ms.fdiv 1000
  let t : Instant := ⟨s, (ms - s * 1000).toNat * 1000000⟩
  if t.isKept then some t else none

def Instant.millis (t : Instant) : Int := t.seconds * 1000 + (t.nanos / 1000000 : Nat)

def Instant.truncateToMillis (t : Instant) : Instant := ⟨t.seconds, t.nanos / 1000000 * 1000000⟩

def Instant.addSeconds (t : Instant) (n : Nat) : Instant := ⟨t.seconds + n, t.nanos⟩

end SchemaMigration.Time
