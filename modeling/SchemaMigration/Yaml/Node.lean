import SchemaMigration.Yaml.Token

/-!
# Documents of YAML

`Node`          : a scalar, a list or a mapping, with its tag.
`Node.ofTokens?`: the one document that tokens spell.
`Node.ofText?`  : the one document of a text; a text without any counts as an empty scalar.
-/

namespace SchemaMigration.Yaml

set_option autoImplicit false

/-- A scalar, a list or a mapping, with its tag. `plain` scalars are those without quotes. -/
inductive Node
  | scalar (tag : Option String) (plain : Bool) (text : String)
  | list (tag : Option String) (items : List Node)
  | mapping (tag : Option String) (pairs : List (Node × Node))
  deriving Repr

/-- The scalar that stands where nothing is written. -/
def Node.nothing : Node := .scalar none true ""

/-- The tokens that are left, the nodes by their anchors, and the handles of tags. -/
structure Reading where
  tokens : List Token
  anchors : List (List Char × Node)
  handles : List (List Char × List Char)

abbrev Reader := StateT Reading Option

namespace Reader

def peek : Reader (Option Token) := do return (← get).tokens.head?

def drop : Reader Unit := modify fun s => { s with tokens := s.tokens.tail }

def accept (t : Token) : Reader Bool := do
  if (← peek) == some t then drop; return true else return false

def expect (t : Token) : Reader Unit := do unless ← accept t do failure

def nextIn (ts : List Token) : Reader Bool := do return (← peek).any ts.contains

/-- The tag with its handle resolved; a tag without a handle is resolved already. -/
def resolve (handle rest : List Char) : Reader String := do
  if handle.isEmpty then return String.ofList rest
  match (← get).handles.lookup handle with
  | some start => return String.ofList (start ++ rest)
  | none => failure

/-- An anchor and a tag, in any order and each at most once. -/
def properties : Nat → Option (List Char) → Option String → Reader (Option (List Char) × Option String)
  | 0, a, t => return (a, t)
  | n + 1, a, t => do
    match ← peek, a, t with
    | some (.anchor name), none, t => drop; properties n (some name) t
    | some (.tag handle rest), a, none => drop; properties n a (some (← resolve handle rest))
    | _, a, t => return (a, t)

def keep (anchor : Option (List Char)) (node : Node) : Reader Node := do
  if let some name := anchor then modify fun s => { s with anchors := (name, node) :: s.anchors }
  return node

/-! ## Nodes -/

mutual

/-- A node. `block` says whether indented blocks may stand here, `dashes` whether a list without indentation may. -/
def node : Nat → Bool → Bool → Reader Node
  | 0, _, _ => failure
  | fuel + 1, block, dashes => do
    if let some (.alias name) ← peek then
      drop
      match (← get).anchors.lookup name with
      | some n => return n
      | none => failure
    let (anchor, tag) ← properties 2 none none
    match ← peek with
    | some (.scalar plain text) => drop; keep anchor (.scalar tag plain (String.ofList text))
    | some .flowListStart => drop; keep anchor (.list tag (← flowItems fuel true))
    | some .flowMappingStart => drop; keep anchor (.mapping tag (← flowPairs fuel true))
    | some .dash => if dashes then keep anchor (.list tag (← dashItems fuel)) else blank anchor tag
    | some .blockListStart =>
      if block then drop; keep anchor (.list tag (← blockItems fuel)) else blank anchor tag
    | some .blockMappingStart =>
      if block then drop; keep anchor (.mapping tag (← blockPairs fuel)) else blank anchor tag
    | _ => blank anchor tag
where
  /-- An empty scalar, which must have an anchor or a tag. -/
  blank (anchor : Option (List Char)) (tag : Option String) : Reader Node :=
    if anchor.isSome || tag.isSome then keep anchor (.scalar tag true "") else failure

/-- A node, or nothing if one of the tokens comes next. -/
def nodeUnless : Nat → List Token → Bool → Bool → Reader Node
  | 0, _, _, _ => failure
  | fuel + 1, ts, block, dashes => do
    if ← nextIn ts then return .nothing else node fuel block dashes

def blockItems : Nat → Reader (List Node)
  | 0 => failure
  | fuel + 1 => do
    if ← accept .blockEnd then return []
    expect .dash
    let item ← nodeUnless fuel [.dash, .blockEnd] true false
    return item :: (← blockItems fuel)

/-- The items of a list without indentation; it ends before any other token. -/
def dashItems : Nat → Reader (List Node)
  | 0 => failure
  | fuel + 1 => do
    unless ← accept .dash do return []
    let item ← nodeUnless fuel [.dash, .key, .value, .blockEnd] true false
    return item :: (← dashItems fuel)

def blockPairs : Nat → Reader (List (Node × Node))
  | 0 => failure
  | fuel + 1 => do
    if ← accept .blockEnd then return []
    expect .key
    let key ← nodeUnless fuel [.key, .value, .blockEnd] true true
    let value ← if ← accept .value then nodeUnless fuel [.key, .value, .blockEnd] true true else pure .nothing
    return (key, value) :: (← blockPairs fuel)

/-- The items of a list in brackets up to its end. A key makes a mapping of one pair. -/
def flowItems : Nat → Bool → Reader (List Node)
  | 0, _ => failure
  | fuel + 1, first => do
    if ← accept .flowListEnd then return []
    unless first do expect .comma
    if ← accept .flowListEnd then return []
    let item ←
      if ← accept .key then do
        let key ← nodeUnless fuel [.value, .comma, .flowListEnd] false false
        let value ← if ← accept .value then nodeUnless fuel [.comma, .flowListEnd] false false else pure .nothing
        pure (Node.mapping none [(key, value)])
      else node fuel false false
    return item :: (← flowItems fuel false)

def flowPairs : Nat → Bool → Reader (List (Node × Node))
  | 0, _ => failure
  | fuel + 1, first => do
    if ← accept .flowMappingEnd then return []
    unless first do expect .comma
    if ← accept .flowMappingEnd then return []
    let pair ←
      if ← accept .key then do
        let key ← nodeUnless fuel [.value, .comma, .flowMappingEnd] false false
        let value ← if ← accept .value then nodeUnless fuel [.comma, .flowMappingEnd] false false else pure .nothing
        pure (key, value)
      else do pure (← node fuel false false, Node.nothing)
    return pair :: (← flowPairs fuel false)

end

/-! ## Documents -/

/-- The directives before a document: at most one version, which must be known, and each handle once. -/
def directives : Nat → Bool → List (List Char) → Reader Unit
  | 0, _, _ => failure
  | fuel + 1, version, seen => do
    match ← peek with
    | some (.versionDirective major minor) =>
      if version || major != 1 || (minor != 1 && minor != 2) then failure
      drop
      directives fuel true seen
    | some (.tagDirective handle start) =>
      if seen.contains handle then failure
      drop
      modify fun s => { s with handles := (handle, start) :: s.handles }
      directives fuel version (handle :: seen)
    | _ => return ()

def documentEnds : Reader Bool := do
  match ← peek with
  | none | some (.versionDirective ..) | some (.tagDirective ..) | some .documentStart | some .documentEnd => return true
  | _ => return false

def documentMarks : Nat → Reader Unit
  | 0 => return ()
  | fuel + 1 => do if ← accept .documentEnd then documentMarks fuel

/-- The only document; nothing may come after it. -/
def document (fuel : Nat) : Reader Node := do
  let explicit ← nextIn [.documentStart]
  let directed := match ← peek with
    | some (.versionDirective ..) | some (.tagDirective ..) => true
    | _ => false
  if (← peek).isNone then return .nothing
  let root ←
    if explicit || directed then do
      directives fuel false []
      expect .documentStart
      if ← documentEnds then pure .nothing else node fuel true false
    else node fuel true false
  documentMarks fuel
  if (← peek).isSome then failure
  return root

end Reader

def standardHandles : List (List Char × List Char) :=
  [(['!'], ['!']), (['!', '!'], "tag:yaml.org,2002:".toList)]

def Node.ofTokens? (ts : List Token) : Option Node :=
  ((Reader.document (4 * ts.length + 16)).run ⟨ts, [], standardHandles⟩).map (·.1)

def Node.ofText? (s : String) : Option Node := Token.ofText? s.toList >>= Node.ofTokens?

end SchemaMigration.Yaml
