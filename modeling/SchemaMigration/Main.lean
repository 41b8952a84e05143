import SchemaMigration.Http.Wire
import SchemaMigration.Program
import SchemaMigration.Run.Holder
import Std.Async.DNS
import Std.Async.TCP
import Std.Internal.UV.System
import Std.Time.DateTime.Timestamp

/-!
# The command line

Reads the files that the program works on, runs it, answers its requests over the network, keeps the databases it changed
and prints what it says. Local databases are kept as scripts.
-/

namespace SchemaMigration.Main

set_option autoImplicit false

open Http (Reply Request Url)
open Sqlite (Content)

/-! ## Files -/

/-- The path that a text names from a folder, names that go back resolved. -/
def pathOf (here : FilePath) (text : String) : FilePath :=
  (Files.components text).foldl (fun p name => if name == ".." then p.dropLast else p ++ [name])
    (if text.startsWith "/" then [] else here)

def textOf (p : FilePath) : String := "/" ++ "/".intercalate p

/-- The tree with what stands at a path. A link comes with what it leads to. -/
def addEntry (files : Files Content) (p : FilePath) : IO (Files Content) := do
  let node := (← IO.currentDir) / textOf p
  match (← node.symlinkMetadata).type with
  | .file => return files.place p (.file (.ofBytes (← IO.FS.readBinFile node)))
  | .dir => return files.makeFolders p
  | .symlink =>
    let target ← IO.FS.realPath node
    let files := files.place p (.link target.toString)
    let q := Files.components target.toString
    if ← target.isDir then return files.makeFolders q
    return files.place q (.file (.ofBytes (← IO.FS.readBinFile target)))
  | .other => return files

def addFolder (here : FilePath) (files : Files Content) (text : String) : IO (Files Content) := do
  let p := pathOf here text
  let node := (← IO.currentDir) / textOf p
  unless ← node.isDir do return files
  (← node.readDir).foldlM (fun files e => addEntry files (p ++ [e.fileName]) <|> pure files) (files.makeFolders p)

def addFile (here : FilePath) (files : Files Content) (text : String) : IO (Files Content) :=
  addEntry files (pathOf here text) <|> pure files

/-- The files that the program works on: those that settings may come from, and then those that the settings name. -/
def loadFiles (l : Launch) : IO (Files Content) := do
  let names := settingsFileNames ++ ((Files.ancestors l.here).map fun p => textOf (p ++ [".env"])) ++ [textOf [".env"]]
  let files ← names.foldlM (addFile l.here) (Files.empty.makeFolders l.here)
  match CommandLine.Invocation.read l.words with
  | .error _ => return files
  | .ok i =>
    let files ← i.config.toList.foldlM (addFile l.here) files
    match l.settings files i (l.fullEnvironment files) with
    | .error _ => return files
    | .ok s => [s.database.host, s.migrations.dir].foldlM (addFolder l.here) files

/-- Writes the databases that are not what they were. -/
def keep (before after : Files Content) : IO Unit :=
  after.nodes.forM fun (p, n) => do
    let old := (before.node? p).bind (·.bytes? Content.toBytes)
    match n with
    | .file (.database db) =>
      let bytes := (Content.database db).toBytes
      unless old == some bytes do IO.FS.writeBinFile (textOf p) bytes
    | _ => return ()

/-! ## Network -/

partial def readAll (client : Std.Async.TCP.Socket.Client) (sofar : ByteArray) : Std.Async.Async ByteArray := do
  match ← client.recv? 65536 with
  | some bytes => readAll client (sofar ++ bytes)
  | none => return sofar

def exchange (a : Std.Net.SocketAddress) (r : Request) (host : String) : Std.Async.Async (Option Reply) := do
  let client ← Std.Async.TCP.Socket.Client.mk
  client.connect a
  client.send (r.toBytes host)
  return Reply.ofBytes? (← readAll client .empty).toList

def send (r : Request) : IO (Option Reply) := do
  match Url.read r.origin with
  | .error _ => return none
  | .ok url =>
    if url.scheme != "http" then return none
    let port := UInt16.ofNat (url.port.getD url.standardPort)
    let found : Array Std.Net.IPAddr ← (Std.Async.DNS.getAddrInfo url.host "").block
    match found.toList.head? with
    | some (.v4 a) => (exchange (.v4 ⟨a, port⟩) r url.host).block
    | some (.v6 a) => (exchange (.v6 ⟨a, port⟩) r url.host).block
    | none => return none

/-- The value of a computation whose requests are sent; one that fails gets no reply. -/
def converse {α : Type} : Online α → IO α
  | .done a => return a
  | .put r next => do converse (next (← send r <|> pure none))

/-! ## Starting and ending -/

def launch (words : List String) : IO Launch := do
  let pairs ← Std.Internal.UV.System.osEnviron
  let time ← Std.Time.Timestamp.now
  let here := Files.components (← IO.currentDir).toString
  let nanoseconds := time.toNanosecondsSinceUnixEpoch.val
  return {
    words
    environment := fun name => (pairs.find? (·.1 == name)).map (·.2)
    here
    now := ⟨nanoseconds / 1000000000, (nanoseconds % 1000000000).toNat⟩
    holder := holderName (← IO.getRandomBytes 16).toList }

def logLine (r : Remark) : String :=
  let text := match r with
    | .milestone (.applied version name) => s!"applied version={version} name=" ++ name
    | .milestone m => m.message
    | .event e => e.message
  r.level.name ++ " " ++ r.topic ++ ": " ++ text

/-- Runs the program and gives its code. -/
def run (words : List String) : IO UInt32 := do
  let l ← launch words
  let before ← loadFiles l
  let ending ← converse (l.run before)
  keep before ending.files
  IO.print ending.printed
  ending.remarks.forM fun r => IO.eprintln (logLine r)
  if ending.code == 2 then IO.eprint usageText
  ending.failure.toList.forM fun f => IO.eprintln f.report
  return ending.code.toUInt32

end SchemaMigration.Main

def main (words : List String) : IO UInt32 := SchemaMigration.Main.run words
