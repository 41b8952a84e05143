import SchemaMigration.Clickhouse.RowBinary
import SchemaMigration.Clickhouse.Template
import SchemaMigration.Http.Message
import SchemaMigration.Http.Url
import SchemaMigration.Run.Dialogue
import SchemaMigration.Text.Blank

/-!
# Talking to a server

`Exchange`         : a computation that sends requests and reads the replies.
`Client.execute`   : a query without rows.
`Client.fetchAll`  : the rows of a query. `Client.fetchOne` : the first of them.

A query is sent only if all its places are filled, the address is one, and the headers can be written. A server that
fails while it writes rows says so after them.
-/

namespace SchemaMigration.Clickhouse

set_option autoImplicit false

open Http (Request Reply Url UrlError)

inductive ClientError
  | unboundPlace
  | url (e : UrlError)
  | header
  | unreachable
  | badResponse (text : String)
  | noRows
  | row (e : RowError)
  deriving DecidableEq, Repr

def ClientError.message : ClientError → String
  | unboundPlace => "invalid params: invalid SQL: unbound query argument"
  | url e => "invalid params: " ++ e.message
  | header => "invalid params: failed to parse header value"
  | unreachable => "network error: client error (Connect)"
  | badResponse t => "bad response: " ++ t
  | noRows => "no rows returned by a query that expected to return at least one row"
  | row .tooShort => "not enough data, probably a row type mismatches a database schema"
  | row .notText => "string is not valid utf8"

/-- A computation that sends requests, where a request that reaches nobody gets no reply, and ends in a value or a
fault. -/
abbrev Exchange (ε α : Type) := ExceptT ε (Dialogue Request fun _ => Option Reply) α

structure Client where
  address : String
  user : String
  password : String
  database : Option String
  deriving DecidableEq, Repr

/-! ## Replies -/

/-- The text of bytes, with a mark for what is none. -/
def lossyText : List UInt8 → String
  | bytes =>
    match String.fromUTF8? ⟨bytes.toArray⟩ with
    | some s => s
    | none => String.ofList (bytes.map fun b => if b < 128 then Char.ofNat b.toNat else '\uFFFD')

/-- What a reply says: the bytes of rows, and the failure that the server wrote after them. -/
structure Body where
  bytes : List UInt8
  failure : Option String
  deriving DecidableEq, Repr

def bytesOf (s : String) : List UInt8 := s.toUTF8.toList

def occursIn (needle : List UInt8) : List UInt8 → Bool
  | [] => needle.isEmpty
  | b :: r => needle.isPrefixOf (b :: r) || occursIn needle r

/-- The bytes before the last place where others begin, and those from there on. -/
def splitAtLast? (needle : List UInt8) : List UInt8 → Option (List UInt8 × List UInt8)
  | [] => none
  | b :: r =>
    match splitAtLast? needle r with
    | some (before, from_) => some (b :: before, from_)
    | none => if needle.isPrefixOf (b :: r) then some ([], b :: r) else none

def Body.ofBytes (bytes : List UInt8) : Body :=
  if (bytesOf "))\n").isSuffixOf bytes then
    match splitAtLast? (bytesOf "Code:") bytes with
    | some (before, text) =>
      if occursIn (bytesOf "DB::Exception:") text then ⟨before, some (lossyText text.dropLast)⟩ else ⟨bytes, none⟩
    | none => ⟨bytes, none⟩
  else ⟨bytes, none⟩

def readReply : Option Reply → Except ClientError Body
  | none => .error .unreachable
  | some r =>
    if r.status == 200 then .ok (.ofBytes r.body)
    else match String.fromUTF8? ⟨r.body.toArray⟩ with
      | some s => .error (.badResponse (Text.trimString s))
      | none => .error (.badResponse (Http.statusLine r.status))

/-! ## Queries -/

namespace Client

/-- The longest query, in bytes, that is sent as part of an address. -/
def longestInAddress : Nat := 8192

def request (c : Client) (readOnly : Bool) (query : Option String) : Except ClientError Request := do
  let sql ← match query with
    | some q => pure q
    | none => throw .unboundPlace
  let url ← match Url.read c.address with
    | .ok u => pure u
    | .error e => throw (.url e)
  unless Http.isHeaderValue c.user && Http.isHeaderValue c.password do throw .header
  let method := if readOnly && sql.utf8ByteSize ≤ longestInAddress then .get else .post
  return ⟨url.origin, method, url.path, c.database, sql, c.user, c.password⟩

def send (c : Client) (readOnly : Bool) (query : Option String) : Exchange ClientError Body := do
  let r ← liftExcept (c.request readOnly query)
  let reply ← ExceptT.lift (Dialogue.ask (Q := Request) (A := fun _ => Option Reply) r)
  liftExcept (readReply reply)
where
  /-- A value or a fault without a request. -/
  liftExcept {α : Type} (r : Except ClientError α) : Exchange ClientError α := ExceptT.mk (pure r)

/-- A query without rows. -/
def execute (c : Client) (template : String) (values : List String) : Exchange ClientError Unit := do
  let body ← c.send false (fill template values)
  match body.failure with
  | some t => throw (.badResponse t)
  | none => return ()

/-- The rows of a reply's body, and what went wrong after them. -/
def readBody {α : Type} (row : Field α) (body : Body) : List α × Option ClientError :=
  match rows row body.bytes, body.failure with
  | (xs, some .notText), _ => (xs, some (.row .notText))
  | (xs, _), some t => (xs, some (.badResponse t))
  | (xs, some .tooShort), none => (xs, some (.row .tooShort))
  | (xs, none), none => (xs, none)

def fetch {α : Type} (c : Client) (row : Field α) (template : String) (values : List String) :
    Exchange ClientError (List α × Option ClientError) := do
  let body ← c.send true (fill (template ++ " FORMAT RowBinary") values)
  return readBody row body

def fetchAll {α : Type} (c : Client) (row : Field α) (template : String) (values : List String) :
    Exchange ClientError (List α) := do
  match ← c.fetch row template values with
  | (xs, none) => return xs
  | (_, some e) => throw e

/-- The first row of a query; what comes after it does not matter. -/
def fetchOne {α : Type} (c : Client) (row : Field α) (template : String) (values : List String) :
    Exchange ClientError α := do
  match ← c.fetch row template values with
  | (x :: _, _) => return x
  | ([], some e) => throw e
  | ([], none) => throw .noRows

end Client

end SchemaMigration.Clickhouse
