import SchemaMigration.Files
import SchemaMigration.Settings.Layer
import SchemaMigration.Settings.OfToml
import SchemaMigration.Settings.OfYaml

/-!
# Settings from files

`Settings.ofFile`   : the settings in one file.
`discover?`         : the settings file of a folder, if it has one.
`Settings.load`     : the settings in files with the environment on top.

Files of blanks hold the standard settings whatever their names.
-/

namespace SchemaMigration

set_option autoImplicit false

/-! ## Paths -/

/-- What follows the last point of a file name, if anything comes before that point. -/
def extensionOfName? (name : String) : Option String :=
  let reversed := name.toList.reverse
  let ending := (reversed.takeWhile (· != '.')).reverse
  match reversed.dropWhile (· != '.') with
  | '.' :: _ :: _ => if name == ".." then none else some (String.ofList ending)
  | _ => none

def extensionOf? (path : String) : Option String := (Files.components path).getLast? >>= extensionOfName?

/-! ## Reading -/

inductive SettingsForm
  | yaml
  | toml
  deriving DecidableEq, Repr

def SettingsForm.ofExtension? (ext : String) : Option SettingsForm :=
  if ext == "yml" || ext == "yaml" then some .yaml else if ext == "toml" then some .toml else none

def SettingsForm.read (form : SettingsForm) (text : String) : Except Fault Settings :=
  match form with
  | yaml => (Settings.ofYaml? text).elim (.error (.serialization "YAML parse error")) .ok
  | toml => (Settings.ofToml? text).elim (.error (.serialization "TOML parse error")) .ok

def Settings.ofText (path text : String) : Except Fault Settings :=
  if Text.allBlank text.toList then .ok .standard
  else
    let ext := (extensionOf? path).getD ""
    match SettingsForm.ofExtension? ext with
    | some form => form.read text
    | none => .error (.config ("unsupported config extension: " ++ ext))

variable {β : Type}

def Files.readText (fs : Files β) (bytes : β → ByteArray) (here : FilePath) (path : String) : Except String String :=
  match fs.find here path with
  | .error e => .error e.message
  | .ok (.file content) =>
    match String.fromUTF8? (bytes content) with
    | some text => .ok text
    | none => .error "stream did not contain valid UTF-8"
  | .ok _ => .error "Is a directory (os error 21)"

def Settings.ofFile (fs : Files β) (bytes : β → ByteArray) (here : FilePath) (path : String) : Except Fault Settings :=
  match fs.readText bytes here path with
  | .ok text => ofText path text
  | .error e => .error (.config ("failed to read " ++ path ++ ": " ++ e))

/-! ## Finding -/

/-- The names that a settings file may have, the first that is there counts. -/
def settingsFileNames : List String := ["migrun.yml", "migrun.yaml", "migrun.toml"]

def discover? (fs : Files β) (here : FilePath) (folder : String) : Option String :=
  (settingsFileNames.map (joinPath folder)).find? (fs.isFile here)

/-- The settings in the file that was asked for, or else in the one of the folder, and standard ones without a file. -/
def Settings.ofFiles (fs : Files β) (bytes : β → ByteArray) (here : FilePath) (asked : Option String) (folder : String) :
    Except Fault Settings :=
  match asked <|> discover? fs here folder with
  | some path => ofFile fs bytes here path
  | none => .ok .standard

/-- The settings in files with the environment on top. -/
def Settings.load (fs : Files β) (bytes : β → ByteArray) (here : FilePath) (asked : Option String) (folder : String)
    (env : Environment) : Except Fault Settings := do
  let base ← ofFiles fs bytes here asked folder
  match base.overlayEnvironment env with
  | (.ok (), s) => return s
  | (.error f, _) => throw f

end SchemaMigration
