/-!
# Rows in binary

`Field`       : a reader of one value, which gives the bytes after it.
`word`, `text`: a word of eight bytes, lowest first, and a text after its length.
`rows`        : rows up to the last byte.
`wordBytes`, `textBytes` : the bytes that a word and a text are read from.
-/

namespace SchemaMigration.Clickhouse

set_option autoImplicit false

inductive RowError
  | tooShort
  | notText
  deriving DecidableEq, Repr

/-- A reader of one value. -/
abbrev Field (α : Type) := List UInt8 → Except RowError (α × List UInt8)

/-- The number that bytes spell, lowest first. -/
def littleEndian : List UInt8 → Nat
  | [] => 0
  | b :: r => b.toNat + 256 * littleEndian r

/-- A word of eight bytes without a sign. -/
def word : Field Nat := fun bs =>
  if bs.length < 8 then .error .tooShort else .ok (littleEndian (bs.take 8), bs.drop 8)

def signedWord : Field Int := fun bs => (word bs).map fun (n, r) => ((n : Int).bmod UInt64.size, r)

/-- A length in groups of seven bits, lowest first; each byte but the last has its high bit set. -/
def lengthWithin : Nat → Field Nat
  | 0 => fun _ => .error .tooShort
  | n + 1 => fun bytes =>
    match bytes with
    | [] => .error .tooShort
    | b :: r =>
      if b.toNat < 128 then .ok (b.toNat, r)
      else (lengthWithin n r).map fun (m, r) => (b.toNat % 128 + 128 * m, r)

def length : Field Nat := lengthWithin 9

def text : Field String := fun bytes => do
  let (n, r) ← length bytes
  if r.length < n then throw .tooShort
  match String.fromUTF8? ⟨(r.take n).toArray⟩ with
  | some s => return (s, r.drop n)
  | none => throw .notText

/-- Rows up to the last byte, and why the bytes after them are no row, if there are any. `fuel` bounds the rows. -/
def readRows {α : Type} (row : Field α) : Nat → List UInt8 → List α × Option RowError
  | 0, _ => ([], none)
  | _, [] => ([], none)
  | fuel + 1, bytes =>
    match row bytes with
    | .error e => ([], some e)
    | .ok (a, r) =>
      let (more, e) := readRows row fuel r
      (a :: more, e)

def rows {α : Type} (row : Field α) (bytes : List UInt8) : List α × Option RowError := readRows row bytes.length bytes

/-! ## Writing -/

/-- The number in that many bytes, lowest first. -/
def bytesOfNumber : Nat → Nat → List UInt8
  | 0, _ => []
  | k + 1, n => UInt8.ofNat (n % 256) :: bytesOfNumber k (n / 256)

def wordBytes (n : Nat) : List UInt8 := bytesOfNumber 8 n

def signedWordBytes (n : Int) : List UInt8 := wordBytes (n % (UInt64.size : Int)).toNat

def lengthBytes (n : Nat) : List UInt8 :=
  if n < 128 then [UInt8.ofNat n] else UInt8.ofNat (n % 128 + 128) :: lengthBytes (n / 128)

def textBytes (s : String) : List UInt8 := lengthBytes s.utf8ByteSize ++ s.toUTF8.toList

end SchemaMigration.Clickhouse
