import SchemaMigration.Fault
import SchemaMigration.Time.Reader

/-!
# Names of migration files

`readFileName`  : the version and the name in `001_create_users.sql`.
`parseFileName` : the same with the fault that names the file.

A name is a run of digits, then `.sql` at once or a separator, a name and `.sql`. A file without a name part is named
after its digits.
-/

namespace SchemaMigration.Migration

set_option autoImplicit false

open Time (digitsValue)

def suffix : List Char := ['.', 's', 'q', 'l']

/-- The greatest version that can be stored as a signed word. -/
def greatestVersion : Nat := 9223372036854775807

/-- What may stand between the digits and the name. -/
def isSeparator (c : Char) : Bool := c == '_' || c == '-' || c == '.'

/-- The name in what follows the digits: all between a separator and the ending, on one line and not empty. -/
def nameAfterDigits : List Char → Option (List Char)
  | [] => none
  | sep :: body =>
    let name := body.take (body.length - suffix.length)
    if isSeparator sep && suffix.isSuffixOf body && !name.isEmpty && !name.contains '\n' then some name else none

def readFileName (s : List Char) : Option (Nat × List Char) :=
  let digits := s.takeWhile Char.isDigit
  let rest := s.dropWhile Char.isDigit
  let version := digitsValue digits
  if digits.isEmpty || greatestVersion < version then none
  else if rest == suffix then some (version, digits)
  else (nameAfterDigits rest).map fun name => (version, name)

/-- The version and the name that a file name spells, or the fault that names the file. -/
def parseFileName (file : String) : Except Fault (Version × String) :=
  match readFileName file.toList with
  | some (version, name) => .ok (UInt64.ofNat version, String.ofList name)
  | none => .error (.invalidMigrationName file)

end SchemaMigration.Migration
