/-!
# Queries with places for values

`fill`         : a template with its places filled in order; every question mark is a place.
`textLiteral`  : a text as a literal.
`doubleMarks`  : a text with every question mark written twice.
-/

namespace SchemaMigration.Clickhouse

set_option autoImplicit false

def placeMark : Char := '?'

/-- A template with its places filled in order, unless there are too few values. -/
def fillChars : List Char → List (List Char) → Option (List Char)
  | [], _ => some []
  | c :: r, values =>
    if c == placeMark then
      match values with
      | [] => none
      | v :: vs => (fillChars r vs).map (v ++ ·)
    else (fillChars r values).map (c :: ·)

def fill (template : String) (values : List String) : Option String :=
  (fillChars template.toList (values.map (·.toList))).map String.ofList

/-- A character inside a literal: quotes and backslashes have a backslash before them. -/
def escapeChar (c : Char) : List Char := if c == '\'' || c == '\\' then ['\\', c] else [c]

def textLiteral (s : String) : String := String.ofList ('\'' :: s.toList.flatMap escapeChar ++ ['\''])

def doubleMarks (s : String) : String :=
  String.ofList (s.toList.flatMap fun c => if c == placeMark then [c, c] else [c])

end SchemaMigration.Clickhouse
