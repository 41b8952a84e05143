/-!
# Bytes that are no text

`Flaw`         : where bytes stop being a text, and how many of them are wrong there.
`flaw?`        : the first flaw of bytes as UTF-8.
`IllFormed`    : bytes with a flaw.
`Flaw.message` : its sentence.
-/

namespace SchemaMigration.Text

set_option autoImplicit false

/-- Where bytes stop being a text: before `place` they are one. `length` bytes are wrong there, unless the bytes end
inside a character. -/
structure Flaw where
  place : Nat
  length : Option Nat
  deriving DecidableEq, Repr

def Flaw.message (f : Flaw) : String :=
  match f.length with
  | some n => s!"invalid utf-8 sequence of {n} bytes from index {f.place}"
  | none => s!"incomplete utf-8 byte sequence from index {f.place}"

/-- How many bytes follow the first byte of a character; nothing if no character begins with it. -/
def followers? (first : UInt8) : Option Nat :=
  if first < 0x80 then some 0
  else if first < 0xC2 then none
  else if first < 0xE0 then some 1
  else if first < 0xF0 then some 2
  else if first < 0xF5 then some 3
  else none

def isFollower (b : UInt8) : Bool := 0x80 ≤ b && b < 0xC0

/-- Whether `b` may come right after the first byte of a character. It must not spell a character that has a shorter
spelling, a surrogate, or a number above all characters. -/
def comesSecond (first b : UInt8) : Bool :=
  isFollower b && (first != 0xE0 || 0xA0 ≤ b) && (first != 0xED || b < 0xA0) && (first != 0xF0 || 0x90 ≤ b) &&
    (first != 0xF4 || b < 0x90)

/-- What is wrong in the bytes of a character after those that were read: the number of wrong bytes, unless the bytes
end there. `allowed` tells what may be next. -/
def brokenOff? (allowed : UInt8 → Bool) : Nat → Nat → List UInt8 → Option (Option Nat)
  | _, 0, _ => none
  | _, _ + 1, [] => some none
  | read, missing + 1, b :: r => if allowed b then brokenOff? isFollower (read + 1) missing r else some (some read)

/-- The first flaw of bytes as UTF-8, the first of them being at `place`. `known` bytes were seen to be right with a
character before them. -/
def flawFrom? : Nat → Nat → List UInt8 → Option Flaw
  | _, _, [] => none
  | place, known + 1, _ :: r => flawFrom? (place + 1) known r
  | place, 0, b :: r =>
    match followers? b with
    | none => some ⟨place, some 1⟩
    | some n =>
      match brokenOff? (comesSecond b) 1 n r with
      | some length => some ⟨place, length⟩
      | none => flawFrom? (place + 1) n r

/-- The first flaw of bytes as UTF-8, if they are no text. -/
def flaw? (bytes : List UInt8) : Option Flaw := flawFrom? 0 0 bytes

/-- Bytes that are no text. -/
structure IllFormed where
  bytes : List UInt8
  flaw : Flaw
  found : flaw? bytes = some flaw
  deriving DecidableEq, Repr

end SchemaMigration.Text
