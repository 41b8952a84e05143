import SchemaMigration.Text.Ranges
import SchemaMigration.Text.Alphabetic
import SchemaMigration.Text.Numeric
import SchemaMigration.Text.WordMarks

/-!
# Character classes

`isAlphanumeric` : letters and numbers of every script.
`isWordChar`     : what may stand inside a word when word boundaries are looked for.
`isControl`      : the two blocks of control characters.

ASCII is decided by rule and the rest by tables, so that facts about SQL keywords need no table.
-/

namespace SchemaMigration.Text

set_option autoImplicit false

def isAlphanumeric (c : Char) : Bool :=
  if c.toNat < 0x80 then c.isAlphanum else alphabetic.has c || numeric.has c

/-- Whether a word boundary cannot lie between `c` and a letter: letters, marks, digits, connectors and joiners. -/
def isWordChar (c : Char) : Bool :=
  if c.toNat < 0x80 then c.isAlphanum || c == '_' else alphabetic.has c || wordMarks.has c

def isControl (c : Char) : Bool := c.toNat < 0x20 || (0x7F ≤ c.toNat && c.toNat < 0xA0)

def lowerAscii (s : List Char) : List Char := s.map Char.toLower

def lowerAsciiString (s : String) : String := String.ofList (lowerAscii s.toList)

def sameIgnoringCase (s t : List Char) : Bool := lowerAscii s == lowerAscii t

end SchemaMigration.Text
