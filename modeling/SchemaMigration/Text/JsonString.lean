/-!
# String literals of JSON

`jsonEscape` : how one character is written inside a JSON string.
`jsonString` : a string literal; everything but quotes, backslashes and controls stands for itself.
-/

namespace SchemaMigration.Text

set_option autoImplicit false

def hexDigit (n : Nat) : Char := Nat.digitChar (n % 16)

def jsonEscape (c : Char) : List Char :=
  if c == '"' then ['\\', '"']
  else if c == '\\' then ['\\', '\\']
  else if c == '\n' then ['\\', 'n']
  else if c == '\r' then ['\\', 'r']
  else if c == '\t' then ['\\', 't']
  else if c == '\x08' then ['\\', 'b']
  else if c == '\x0c' then ['\\', 'f']
  else if c.toNat < 0x20 then ['\\', 'u', '0', '0', hexDigit (c.toNat / 16), hexDigit c.toNat]
  else [c]

def jsonString (s : String) : String :=
  String.ofList ('"' :: s.toList.flatMap jsonEscape ++ ['"'])

end SchemaMigration.Text
