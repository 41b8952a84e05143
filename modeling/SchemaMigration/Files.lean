/-!
# Trees of files

`Node`          : a file, a folder or a link.
`Files`         : the nodes of a tree by their paths from its root.
`Files.resolve` : the path that a text names, links followed.
`Files.list`    : the entries of a folder.

A path is the list of the names from the root. What files hold is left open.
-/

namespace SchemaMigration

set_option autoImplicit false

/-- The names from the root to a node. -/
abbrev FilePath := List String

inductive Node (β : Type)
  | file (content : β)
  | folder
  | link (target : String)

/-- The nodes of a tree below its root, in the order they were made. -/
structure Files (β : Type) where
  nodes : List (FilePath × Node β)

inductive PathError
  | absent
  | notFolder
  | tooManyLinks
  deriving DecidableEq, Repr

def PathError.message : PathError → String
  | absent => "No such file or directory (os error 2)"
  | notFolder => "Not a directory (os error 20)"
  | tooManyLinks => "Too many levels of symbolic links (os error 40)"

namespace Files

variable {β : Type}

def empty : Files β := ⟨[]⟩

/-- The node at a path; the root is a folder. -/
def node? (fs : Files β) (p : FilePath) : Option (Node β) :=
  if p.isEmpty then some .folder else (fs.nodes.find? (·.1 == p)).map (·.2)

/-! ## Resolving -/

/-- The names in a text, without those that stay where they are. -/
def components (text : String) : List String :=
  (text.splitOn "/").filter fun c => c != "" && c != "."

/-- Where the names lead from a folder. At most `links` links are followed; the last name may be free. -/
def walk (fs : Files β) (links : Nat) (here : FilePath) : List String → Except PathError FilePath
  | [] => .ok here
  | ".." :: rest => walk fs links here.dropLast rest
  | name :: rest =>
    let p := here ++ [name]
    match fs.node? p with
    | none => if rest.isEmpty then .ok p else .error .absent
    | some .folder => walk fs links p rest
    | some (.file _) => if rest.isEmpty then .ok p else .error .notFolder
    | some (.link target) =>
      match links with
      | 0 => .error .tooManyLinks
      | links + 1 =>
        walk fs links (if target.startsWith "/" then [] else here) (components target ++ rest)
  termination_by names => (links, names.length)

def linkLimit : Nat := 40

/-- The path that a text names from a folder, links followed; the last name may be free. -/
def resolve (fs : Files β) (here : FilePath) (text : String) : Except PathError FilePath :=
  if text.isEmpty then .error .absent
  else walk fs linkLimit (if text.startsWith "/" then [] else here) (components text)

def find (fs : Files β) (here : FilePath) (text : String) : Except PathError (Node β) := do
  let p ← fs.resolve here text
  match fs.node? p with
  | some n => return n
  | none => throw .absent

def isFolder (fs : Files β) (here : FilePath) (text : String) : Bool :=
  match fs.find here text with
  | .ok .folder => true
  | _ => false

def isFile (fs : Files β) (here : FilePath) (text : String) : Bool :=
  match fs.find here text with
  | .ok (.file _) => true
  | _ => false

/-! ## Listing -/

/-- The names right below a folder with their nodes, in the order they were made. -/
def children (fs : Files β) (p : FilePath) : List (String × Node β) :=
  fs.nodes.filterMap fun (q, n) =>
    match q.getLast? with
    | some name => if q.dropLast == p then some (name, n) else none
    | none => none

def list? (fs : Files β) (here : FilePath) (text : String) : Option (List (String × Node β)) :=
  match fs.resolve here text with
  | .ok p =>
    match fs.node? p with
    | some .folder => some (fs.children p)
    | _ => none
  | .error _ => none

/-! ## Changing -/

/-- The tree without the node at a path and all below it. -/
def erase (fs : Files β) (p : FilePath) : Files β := ⟨fs.nodes.filter fun x => !p.isPrefixOf x.1⟩

def put (fs : Files β) (p : FilePath) (n : Node β) : Files β :=
  if (fs.node? p).isSome then ⟨fs.nodes.map fun x => if x.1 == p then (p, n) else x⟩ else ⟨fs.nodes ++ [(p, n)]⟩

/-- A path and the paths above it, the root apart, shortest first. -/
def ancestors (p : FilePath) : List FilePath := (List.range p.length).map fun n => p.take (n + 1)

/-- The tree with folders all the way along a path, where nothing stands yet. -/
def makeFolders (fs : Files β) (p : FilePath) : Files β :=
  (ancestors p).foldl (fun fs q => if (fs.node? q).isSome then fs else fs.put q .folder) fs

def place (fs : Files β) (p : FilePath) (n : Node β) : Files β := (fs.makeFolders p.dropLast).put p n

end Files

/-- The path of a name in a folder, as a text; a name from the root stands for itself. -/
def joinPath (folder name : String) : String :=
  if folder.isEmpty || name.startsWith "/" then name
  else if folder.endsWith "/" then folder ++ name
  else folder ++ "/" ++ name

end SchemaMigration
