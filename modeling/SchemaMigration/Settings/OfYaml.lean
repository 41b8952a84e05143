import SchemaMigration.Settings.Document
import SchemaMigration.Yaml.Node

/-!
# Settings in YAML

`Yaml.Node.format`  : how YAML shows fields, texts, names and truth values.
`Settings.ofYaml?`  : the settings that a text of YAML holds.

A text is any scalar as it is written, so `42`, `true` and `~` are texts. Only plain scalars are truth values.
-/

namespace SchemaMigration

set_option autoImplicit false

namespace Yaml.Node

def nullTag : String := "tag:yaml.org,2002:null"

def isNull (text : String) : Bool := ["~", "null", "Null", "NULL"].contains text

def text? : Node → Option String
  | scalar _ _ text => some text
  | _ => none

/-- The values of the named fields. Every key has to be a scalar, and a named one may not come twice. -/
def fields? (names : List String) : Node → Option (List (String × Node))
  | mapping _ pairs => do
    let named ← pairs.mapM fun (key, value) => key.text?.map (·, value)
    let known := named.filter fun p => names.contains p.1
    if (known.map (·.1)).Nodup then some known else none
  | scalar _ true "" => some []
  | _ => none

/-- A text that may be left open: by a plain scalar that is empty or says so. -/
def optionalText? : Node → Option (Option String)
  | scalar none true text => some (if text == "" || isNull text then none else some text)
  | scalar (some tag) true text => if tag == nullTag then (if isNull text then some none else none) else some (some text)
  | scalar _ false text => some (some text)
  | _ => none

/-- A name: a scalar, or a local tag on nothing. -/
def choice? : Node → Option String
  | scalar (some tag) plain text =>
    if tag.startsWith "!" && tag != "!" then
      (if plain && (text == "" || isNull text) then some (String.ofList (tag.toList.drop 1)) else none)
    else some text
  | scalar none _ text => some text
  | _ => none

def truth? : Node → Option Bool
  | scalar _ true text =>
    if ["true", "True", "TRUE"].contains text then some true
    else if ["false", "False", "FALSE"].contains text then some false
    else none
  | _ => none

def format : Format Node := ⟨fields?, text?, optionalText?, choice?, truth?⟩

end Yaml.Node

def Settings.ofYaml? (text : String) : Option Settings := Yaml.Node.ofText? text >>= Settings.ofDocument? Yaml.Node.format

end SchemaMigration
