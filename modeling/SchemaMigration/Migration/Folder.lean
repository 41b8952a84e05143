import SchemaMigration.Migration.FileName
import SchemaMigration.Migration.Set
import SchemaMigration.Files

/-!
# Folders of migrations

`Entry`             : a name in a folder, with its bytes if it is a regular file.
`Folder`            : a path and, if there is a folder at the path, its entries in the order they are read.
`Files.folder`      : the folder at a path of a tree.
`MigrationSet.load` : the set of the migration files in a folder.
-/

namespace SchemaMigration

set_option autoImplicit false

/-- A name in a folder; `content` is missing for folders, links and whatever else is not a regular file. -/
structure Entry where
  name : String
  content : Option ByteArray

/-- A path and the entries found there, in the order they are read; `entries` is missing if there is no folder. -/
structure Folder where
  path : String
  entries : Option (List Entry)

def Node.bytes? {β : Type} (read : β → ByteArray) : Node β → Option ByteArray
  | file content => some (read content)
  | folder | link _ => none

/-- The folder at a path of a tree, links followed; `read` gives the bytes of a file. -/
def Files.folder {β : Type} (fs : Files β) (read : β → ByteArray) (here : FilePath) (path : String) : Folder :=
  ⟨path, (fs.list? here path).map fun xs => xs.map fun (name, node) => ⟨name, node.bytes? read⟩⟩

def notText : Fault := .io .invalidData "stream did not contain valid UTF-8"

def readText (bytes : ByteArray) : Except Fault String :=
  match String.fromUTF8? bytes with
  | some text => .ok text
  | none => .error notText

/-- The bytes of an entry that is a migration file. -/
def Entry.sqlFile? (e : Entry) : Option ByteArray :=
  if Migration.suffix.isSuffixOf e.name.toList then e.content else none

def Migration.ofFile (name : String) (bytes : ByteArray) : Except Fault Migration := do
  let (version, title) ← Migration.parseFileName name
  let sql ← readText bytes
  return { version, name := title, fileName := name, sql }

namespace MigrationSet

/-- The set with the migration of one entry, or the set itself if the entry is no migration file. -/
def addEntry (s : MigrationSet) (e : Entry) : Except Fault MigrationSet :=
  match e.sqlFile? with
  | none => .ok s
  | some bytes => Migration.ofFile e.name bytes >>= s.insert

/-- The set of the migration files among the entries; the first fault in reading order wins. -/
def ofEntries (es : List Entry) : Except Fault MigrationSet := es.foldlM addEntry empty

def load (f : Folder) : Except Fault MigrationSet :=
  match f.entries with
  | none => .error (.migrationsDirMissing f.path)
  | some es => ofEntries es

end MigrationSet

end SchemaMigration
