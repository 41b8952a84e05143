import SchemaMigration.Settings.Document
import SchemaMigration.Toml.Document

/-!
# Settings in TOML

`Toml.Value.format` : how TOML shows fields, texts, names and truth values.
`Settings.ofToml?`  : the settings that a text of TOML holds.

Fields may be given in a table by their names or in a list by their places. A moment counts as a table of no fields.
-/

namespace SchemaMigration

set_option autoImplicit false

namespace Toml.Value

def fields? (names : List String) : Value → Option (List (String × Value))
  | table _ entries | braces entries => some (entries.filter fun e => names.contains e.1)
  | list items => some (names.zip items)
  | tables items => some (names.zip (items.reverse.map (table .heading)))
  | moment => some []
  | text _ | number | truth _ => none

def text? : Value → Option String
  | text s => some s
  | _ => none

def truth? : Value → Option Bool
  | truth b => some b
  | _ => none

/-- How TOML shows fields, texts, names and truth values; no text is left open. -/
def format : Format Value := ⟨fields?, text?, fun v => v.text?.map some, text?, truth?⟩

end Toml.Value

def Settings.ofToml? (text : String) : Option Settings :=
  Toml.Entries.ofText? text >>= fun es => Settings.ofDocument? Toml.Value.format (.table .heading es)

end SchemaMigration
