import SchemaMigration.Sql.Refusal
import SchemaMigration.Sql.Token
import SchemaMigration.Sql.Value

/-!
# Statements of SQL

`Statement`   : what a statement asks for.
`statement`   : a reader of statements.
`beginning`   : the first statement of a script and the script after it.

A statement is refused at the first token with which no statement could go on.
-/

namespace SchemaMigration.Sql

set_option autoImplicit false

/-! ## Statements -/

structure Name where
  name : String
  spelling : String
  place : Nat
  deriving DecidableEq, Repr

/-- A column that values have to be taken from: of a table, or of its primary key. A deferred reference is checked at the
end of the transaction. -/
structure Reference where
  table : String
  column : Option String
  deferred : Bool
  deriving DecidableEq, Repr

/-- A column. `key` is the primary key, which counts if it is to number the rows; `only` is the one integer that a checked
column may hold. -/
structure Column where
  name : String
  type : String := ""
  key : Bool := false
  counts : Bool := false
  unique : Bool := false
  notNull : Bool := false
  standard : Value := .null
  only : Option Int64 := none
  reference : Option Reference := none
  deriving DecidableEq, Repr

/-- What stands for a value: a literal, or a name that no column has here. -/
inductive Term
  | literal (v : Value)
  | column (name : Name)
  deriving DecidableEq, Repr

structure Insertion where
  table : Name
  columns : Option (List String)
  rows : List (List Term)
  deriving DecidableEq, Repr

/-- What a trigger does when it fires. Of updates and questions nothing is kept but all the names in them, those of tables
and those of columns. -/
inductive Reaction
  | insert (i : Insertion)
  | delete (table : Name)
  /-- The statement for which the trigger fires is refused. -/
  | refuse (reason : String)
  | other (names : List String)
  deriving DecidableEq, Repr

/-- When a trigger fires: before its table is changed, after it, or in place of the change. -/
inductive Moment
  | before
  | after
  | instead
  deriving DecidableEq, Repr

inductive Occasion
  | insertion
  | deletion
  | change
  deriving DecidableEq, Repr

inductive Statement
  | createTable (ifNotExists : Bool) (table : Name) (columns : List Column)
  | dropTable (ifExists : Bool) (table : Name)
  | addColumn (table : Name) (column : Column)
  | createIndex (index table : Name) (columns : List Name)
  | createTrigger (trigger table : Name) (moment : Moment) (occasion : Occasion) (reactions : List Reaction)
  | insert (i : Insertion)
  | delete (table : Name)
  | select (terms : List Term)
  | beginTransaction
  | commit
  | rollback
  deriving DecidableEq, Repr

/-! ## Reading tokens -/

/-- A reader of tokens, which may refuse them. -/
abbrev Reader := StateT (List Token) (Except Refusal)

namespace Reader

def refusalOf (t : Token) : Refusal :=
  if t.kind == .junk then .unrecognized (String.ofList t.spelling) t.place
  else .unexpected (String.ofList t.spelling) t.place

def refuse {α : Type} : Reader α := do
  match ← get with
  | [] => throw .incomplete
  | t :: _ => throw (refusalOf t)

def peek : Reader (Option Token) := do return (← get).head?

def drop : Reader Unit := modify List.tail

def isKeyword (word : String) (t : Token) : Bool :=
  t.kind == .word && Text.sameIgnoringCase t.spelling word.toList

def isMark (c : Char) (t : Token) : Bool := t.kind == .mark && t.spelling == [c]

/-- Takes the next token if it satisfies `p`, and says whether it did. -/
def acceptIf (p : Token → Bool) : Reader Bool := do
  if (← peek).any p then drop; return true else return false

def accept (word : String) : Reader Bool := acceptIf (isKeyword word)

def acceptMark (c : Char) : Reader Bool := acceptIf (isMark c)

def acceptAny (words : List String) : Reader Bool := acceptIf fun t => words.any (isKeyword · t)

def expect (word : String) : Reader Unit := do unless ← accept word do refuse

def expectMark (c : Char) : Reader Unit := do unless ← acceptMark c do refuse

/-- Takes the keywords one after another if the first of them comes next. -/
def acceptAll : List String → Reader Bool
  | [] => return true
  | w :: ws => do
    unless ← accept w do return false
    ws.forM expect
    return true

def reserved : List String :=
  ["add", "all", "alter", "and", "as", "autoincrement", "between", "case", "check", "collate", "commit", "constraint",
    "create", "default", "deferrable", "delete", "distinct", "drop", "else", "escape", "exists", "foreign", "from",
    "group", "having", "in", "index", "insert", "intersect", "into", "is", "isnull", "join", "limit", "not", "notnull",
    "null", "on", "or", "order", "primary", "references", "select", "set", "table", "then", "to", "transaction", "union",
    "unique", "update", "using", "values", "when", "where"]

def isName (t : Token) : Bool :=
  match t.kind with
  | .word => !reserved.contains (String.ofList (Text.lowerAscii t.spelling))
  | .quotedName | .text => true
  | _ => false

def name : Reader Name := do
  match ← peek with
  | some t => if isName t then drop; return ⟨t.name, String.ofList t.spelling, t.place⟩ else refuse
  | none => refuse

/-- One or more of what `item` reads, with commas between them. -/
def commaList {α : Type} (item : Reader α) : Nat → Reader (List α)
  | 0 => refuse
  | fuel + 1 => do
    let x ← item
    if ← acceptMark ',' then return x :: (← commaList item fuel) else return [x]

def parenthesized {α : Type} (item : Reader α) : Reader (List α) := do
  expectMark '('
  let xs ← commaList item ((← get).length + 1)
  expectMark ')'
  return xs

/-! ## Literals -/

def numberValue (negative : Bool) (spelling : List Char) : Value :=
  (Decimal.read? spelling).elim .null fun (d, _) => d.value negative

def hexValue (c : Char) : Nat := if c.isDigit then c.toNat - '0'.toNat else c.toLower.toNat - 'a'.toNat + 10

def bytesOf : List Char → List UInt8
  | a :: b :: r => UInt8.ofNat (16 * hexValue a + hexValue b) :: bytesOf r
  | _ => []

/-- Skips tokens up to the `END` of a `CASE`. -/
def skipCase : Nat → Nat → Reader Unit
  | 0, _ => refuse
  | fuel + 1, depth => do
    if (← peek).isNone then refuse
    if ← accept "case" then skipCase fuel (depth + 1)
    else if ← accept "end" then (if depth == 0 then return () else skipCase fuel (depth - 1))
    else do drop; skipCase fuel depth

def termOf? (t : Token) : Option Term :=
  match t.kind with
  | .number => some (.literal (numberValue false t.spelling))
  | .text => some (.literal (.text t.name))
  | .blob => some (.literal (.blob (bytesOf (t.spelling.drop 2).dropLast)))
  | .quotedName =>
    if t.spelling.head? == some '"' then some (.literal (.text t.name))
    else some (.column ⟨t.name, String.ofList t.spelling, t.place⟩)
  | .word =>
    if isKeyword "null" t then some (.literal .null)
    else if isKeyword "true" t then some (.literal (.integer 1))
    else if isKeyword "false" t then some (.literal (.integer 0))
    else if isName t then some (.column ⟨t.name, String.ofList t.spelling, t.place⟩)
    else none
  | .parameter => if t.spelling.head? == some '#' then none else some (.literal .null)
  | .mark | .junk => none

/-- A number with or without a sign, a text, bytes, `NULL`, a truth value, a parameter, a `CASE` or a name. Parameters are
never given, so they are missing values. -/
def term : Reader Term := do
  if ← acceptMark '-' then
    match ← peek with
    | some t => if t.kind == .number then drop; return .literal (numberValue true t.spelling) else refuse
    | none => refuse
  else if ← acceptMark '+' then
    match ← peek with
    | some t => if t.kind == .number then drop; return .literal (numberValue false t.spelling) else refuse
    | none => refuse
  else if ← accept "case" then
    skipCase ((← get).length + 1) 0
    return .literal .null
  else
    match (← peek).bind termOf? with
    | some x => drop; return x
    | none => refuse

def namedTerm : Reader Term := do
  let x ← term
  if ← accept "as" then
    let _ ← name
  else if (← peek).any isName then drop
  return x

/-! ## Columns -/

def typeWords : Nat → Reader (List String)
  | 0 => return []
  | fuel + 1 => do
    match ← peek with
    | some t => if isName t then drop; return t.name :: (← typeWords fuel) else return []
    | none => return []

def typeSize : Reader Unit := do
  if (← peek).any (isMark '(') then
    let _ ← parenthesized term

def deferral : Reader Bool := do
  if ← acceptAll ["initially", "deferred"] then return true
  let _ ← acceptAll ["initially", "immediate"]
  return false

def reference : Reader Reference := do
  let table ← name
  if (← peek).any (isMark '(') then
    return ⟨table.name, ((← parenthesized name).head?.map (·.name)), false⟩
  else return ⟨table.name, none, false⟩

/-- The one integer that a check allows, after `CHECK`. -/
def onlyInteger : Reader Int64 := do
  expectMark '('
  let _ ← name
  expectMark '='
  let v ← term
  expectMark ')'
  match v with
  | .literal (.integer n) => return n
  | _ => refuse

/-- A column with the constraints that follow. -/
def constraints : Nat → Column → Reader Column
  | 0, c => return c
  | fuel + 1, c => do
    if ← accept "null" then constraints fuel c
    else if ← accept "not" then
      if ← accept "deferrable" then
        let _ ← deferral
        constraints fuel { c with reference := c.reference.map fun r => { r with deferred := false } }
      else do expect "null"; constraints fuel { c with notNull := true }
    else if ← acceptAll ["primary", "key"] then
      let _ ← accept "asc"
      let descending ← accept "desc"
      let counts ← accept "autoincrement"
      constraints fuel { c with key := true, counts, type := if descending then c.type ++ " DESC" else c.type }
    else if ← accept "unique" then constraints fuel { c with unique := true }
    else if ← accept "default" then
      match ← term with
      | .literal v => constraints fuel { c with standard := v }
      | .column n => constraints fuel { c with standard := .text n.name }
    else if ← accept "check" then constraints fuel { c with only := some (← onlyInteger) }
    else if ← accept "references" then constraints fuel { c with reference := some (← reference) }
    else if ← accept "deferrable" then
      let deferred ← deferral
      constraints fuel { c with reference := c.reference.map fun r => { r with deferred } }
    else return c

def column : Reader Column := do
  let n ← name
  let words ← typeWords ((← get).length + 1)
  typeSize
  constraints ((← get).length + 1) { name := n.name, type := " ".intercalate words }

/-! ## Statements -/

def insertion : Reader Insertion := do
  expect "into"
  let table ← name
  let columns ← if (← peek).any (isMark '(') then (some <$> parenthesized name) else pure none
  expect "values"
  let rows ← commaList (parenthesized term) ((← get).length + 1)
  return ⟨table, columns.map (·.map (·.name)), rows⟩

def deletion : Reader Name := do expect "from"; name

/-- The tokens before the next semicolon. -/
def beforeSemicolon : Nat → Reader (List Token)
  | 0 => return []
  | fuel + 1 => do
    match ← peek with
    | some t => if isMark ';' t then return [] else do drop; return t :: (← beforeSemicolon fuel)
    | none => return []

/-- The reason of a question that does nothing but refuse the statement for which its trigger fires. -/
def reasonIn? : List Token → Option String
  | [select, raise, opening, abort, comma, reason, closing] =>
    if isKeyword "select" select && isKeyword "raise" raise && isMark '(' opening && isKeyword "abort" abort &&
      isMark ',' comma && reason.kind == .text && isMark ')' closing then some reason.name
    else none
  | _ => none

def reaction : Reader Reaction := do
  let r ←
    if ← accept "insert" then Reaction.insert <$> insertion
    else if ← accept "delete" then Reaction.delete <$> deletion
    else if (← peek).any fun t => isKeyword "update" t || isKeyword "select" t then do
      let ts ← beforeSemicolon ((← get).length + 1)
      pure ((reasonIn? ts).elim (.other ((ts.filter isName).map Token.name)) Reaction.refuse)
    else refuse
  expectMark ';'
  return r

def reactions : Nat → Reader (List Reaction)
  | 0 => refuse
  | fuel + 1 => do
    let r ← reaction
    if ← accept "end" then return [r] else return r :: (← reactions fuel)

def occasion : Reader Occasion := do
  if ← accept "insert" then return .insertion
  else if ← accept "delete" then return .deletion
  else if ← accept "update" then
    if ← accept "of" then
      let _ ← commaList name ((← get).length + 1)
    return .change
  else refuse

/-- When a trigger fires, which is before the change if nothing is said. -/
def moment : Reader Moment := do
  if ← accept "after" then return .after
  else if ← acceptAll ["instead", "of"] then return .instead
  else
    let _ ← accept "before"
    return .before

def trigger : Reader Statement := do
  let trigger ← name
  let moment ← moment
  let occasion ← occasion
  expect "on"
  let table ← name
  let _ ← acceptAll ["for", "each", "row"]
  expect "begin"
  return .createTrigger trigger table moment occasion (← reactions ((← get).length + 1))

def creation : Reader Statement := do
  if ← accept "table" then
    let ifNotExists ← acceptAll ["if", "not", "exists"]
    let table ← name
    return .createTable ifNotExists table (← parenthesized column)
  else if ← accept "index" then
    let index ← name
    expect "on"
    let table ← name
    return .createIndex index table (← parenthesized name)
  else
    let _ ← acceptAny ["temp", "temporary"]
    expect "trigger"
    trigger

/-- The words that may follow `BEGIN`, `COMMIT` and the like. -/
def transactionWords : Reader Unit := do
  if ← accept "transaction" then
    if (← peek).any isName then drop

def statement : Reader Statement := do
  if ← accept "create" then creation
  else if ← accept "drop" then
    expect "table"
    let ifExists ← acceptAll ["if", "exists"]
    return .dropTable ifExists (← name)
  else if ← accept "alter" then
    expect "table"
    let table ← name
    expect "add"
    let _ ← accept "column"
    return .addColumn table (← column)
  else if ← accept "insert" then return .insert (← insertion)
  else if ← accept "delete" then return .delete (← deletion)
  else if ← accept "select" then return .select (← commaList namedTerm ((← get).length + 1))
  else if ← accept "begin" then
    let _ ← acceptAny ["deferred", "immediate", "exclusive"]
    transactionWords
    return .beginTransaction
  else if ← acceptAny ["commit", "end"] then do transactionWords; return .commit
  else if ← accept "rollback" then do transactionWords; return .rollback
  else refuse

end Reader

/-! ## Scripts -/

inductive Beginning
  | nothing
  /-- A statement, and what follows its semicolon. -/
  | whole (x : Statement) (rest : List Char)
  /-- A statement, and why what follows it is refused. -/
  | followed (x : Statement) (r : Refusal)
  | broken (r : Refusal)
  deriving DecidableEq, Repr

def Statement.createsTable : Statement → Bool
  | createTable .. => true
  | _ => false

/-- Why a token is refused after a statement; after a table, names are taken for options. -/
def trailingRefusal (x : Statement) (t : Token) (rest : List Token) : Refusal :=
  if x.createsTable && Reader.isName t then
    match rest with
    | u :: _ => if Reader.isMark ';' u then .unknownOption t.name else Reader.refusalOf u
    | [] => .unknownOption t.name
  else Reader.refusalOf t

/-- What a script begins with, empty statements left out. Nothing is read beyond a zero character. -/
def beginning (s : List Char) : Beginning :=
  let text := s.takeWhile (· != '\x00')
  match (tokensOf text).dropWhile (Reader.isMark ';') with
  | [] => .nothing
  | tokens =>
    match Reader.statement.run tokens with
    | .error r => .broken r
    | .ok (x, []) => .whole x []
    | .ok (x, t :: rest) =>
      if Reader.isMark ';' t then .whole x (t.after ++ s.drop text.length) else .followed x (trailingRefusal x t rest)

end SchemaMigration.Sql
