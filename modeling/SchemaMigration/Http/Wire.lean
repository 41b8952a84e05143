import SchemaMigration.Http.Message
import SchemaMigration.Http.Url

/-!
# Requests and replies as bytes

`Request.toBytes` : a request as it is sent: reading queries in the address, all others in the body.
`Reply.ofBytes?`  : the reply that the bytes of a closed connection hold.
-/

namespace SchemaMigration.Http

set_option autoImplicit false

/-- Whether `c` stands for itself in the parameters of an address. -/
def isPlain (c : Char) : Bool := c.isAlphanum || c == '-' || c == '.' || c == '_' || c == '~'

def parameterText (s : String) : String :=
  String.ofList (s.toList.flatMap fun c =>
    if isPlain c then [c] else (String.singleton c).toUTF8.toList.flatMap fun b => '%' :: hexByte b)

def Request.parameters (r : Request) : List (String × String) :=
  (r.database.map fun d => ("database", d)).toList ++ (if r.method == .get then [("query", r.sql)] else [])

def Request.target (r : Request) : String :=
  let ps := r.parameters.map fun (k, v) => k ++ "=" ++ parameterText v
  if ps.isEmpty then r.path else r.path ++ "?" ++ "&".intercalate ps

def Request.body (r : Request) : ByteArray := if r.method == .get then .empty else r.sql.toUTF8

/-- The lines of a request ahead of its body. `host` is the server's name. -/
def Request.head (r : Request) (host : String) : List String :=
  [r.method.name ++ " " ++ r.target ++ " HTTP/1.0", "Host: " ++ host, "X-ClickHouse-User: " ++ r.user,
    "X-ClickHouse-Key: " ++ r.password, s!"Content-Length: {r.body.size}"]

def Request.toBytes (r : Request) (host : String) : ByteArray :=
  (String.join ((r.head host ++ [""]).map (· ++ "\r\n"))).toUTF8 ++ r.body

/-- The line end, twice, that closes the head of a reply. -/
def headEnd : List UInt8 := [13, 10, 13, 10]

def afterHead? : List UInt8 → Option (List UInt8)
  | [] => none
  | b :: r => if headEnd.isPrefixOf (b :: r) then some (r.drop 3) else afterHead? r

/-- The status in the first line of a reply: the three digits after its first blank. -/
def status? (bytes : List UInt8) : Option Nat :=
  match (bytes.dropWhile (· != 32)).drop 1 with
  | a :: b :: c :: _ =>
    let ds := [a, b, c].map fun d => d.toNat
    if ds.all fun d => 48 ≤ d && d ≤ 57 then some (ds.foldl (fun n d => 10 * n + (d - 48)) 0) else none
  | _ => none

/-- The reply that the bytes of a closed connection hold. -/
def Reply.ofBytes? (bytes : List UInt8) : Option Reply := do
  let status ← status? bytes
  let body ← afterHead? bytes
  return ⟨status, body⟩

end SchemaMigration.Http
