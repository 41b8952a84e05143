import SchemaMigration.Text.Invisible
import SchemaMigration.Text.Extenders
import SchemaMigration.Text.Character

/-!
# Quoted text for diagnostics

`escapeChar` : how one character is shown between double quotes.
`quoted`     : a string between double quotes, every character without a glyph of its own spelt out.
`labelled`   : a kind of value with its fields by name.
-/

namespace SchemaMigration.Text

set_option autoImplicit false

def hexDigits (n : Nat) : List Char := Nat.toDigits 16 n

/-- Whether `c` would leave no mark of its own on a page: a control, format, separator or unassigned character. -/
def isInvisible (c : Char) : Bool :=
  if c.toNat < 0x80 then c.toNat < 0x20 || c.toNat == 0x7F else invisible.has c

def escapeChar (c : Char) : List Char :=
  if c == '\x00' then ['\\', '0']
  else if c == '\t' then ['\\', 't']
  else if c == '\r' then ['\\', 'r']
  else if c == '\n' then ['\\', 'n']
  else if c == '\\' then ['\\', '\\']
  else if c == '"' then ['\\', '"']
  else if extenders.has c || isInvisible c then ['\\', 'u', '\x7b'] ++ hexDigits c.toNat ++ ['\x7d']
  else [c]

/-- A string between double quotes, with the characters that have no glyph of their own spelt out. -/
def quoted (s : String) : String :=
  String.ofList ('"' :: s.toList.flatMap escapeChar ++ ['"'])

def labelled (kind : String) (fields : List (String × String)) : String :=
  kind ++ " \x7b " ++ ", ".intercalate (fields.map fun p => p.1 ++ ": " ++ p.2) ++ " \x7d"

end SchemaMigration.Text
