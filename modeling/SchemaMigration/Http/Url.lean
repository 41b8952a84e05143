/-!
# Addresses on the web

`Url`      : a scheme, a host, a port and a path.
`Url.read` : the address that a text spells; questions and fragments are dropped.
-/

namespace SchemaMigration.Http

set_option autoImplicit false

inductive UrlError
  | relative
  | emptyHost
  | badHost
  | badPort
  deriving DecidableEq, Repr

def UrlError.message : UrlError → String
  | relative => "relative URL without a base"
  | emptyHost => "empty host"
  | badHost => "invalid international domain name"
  | badPort => "invalid port number"

structure Url where
  scheme : String
  host : String
  port : Option Nat
  path : String
  deriving DecidableEq, Repr

/-! ## Parts -/

/-- The text in lower case and what follows the first colon, if a scheme comes before it. -/
def scheme? (s : List Char) : Option (List Char × List Char) :=
  let isSchemeChar (c : Char) : Bool := c.isAlphanum || c == '+' || c == '-' || c == '.'
  let name := s.takeWhile isSchemeChar
  match name, s.drop name.length with
  | c :: _, ':' :: r => if c.isAlpha then some (name.map Char.toLower, r) else none
  | _, _ => none

/-- What follows the last `@`, or all of the text. -/
def afterUser (s : List Char) : List Char :=
  (s.reverse.takeWhile (· != '@')).reverse

def isForbidden (c : Char) : Bool := c.toNat ≤ 0x20 || c.toNat == 0x7F || " #%/:<>?@[\\]^|".toList.contains c

def splitHost (s : List Char) : List Char × List Char :=
  match s with
  | '[' :: r => ('[' :: r.takeWhile (· != ']') ++ [']'], (r.dropWhile (· != ']')).drop 1)
  | _ => (s.takeWhile (· != ':'), s.dropWhile (· != ':'))

def readHost (s : List Char) : Except UrlError String :=
  if s.isEmpty then .error .emptyHost
  else if s.head? != some '[' && s.any isForbidden then .error .badHost
  else .ok (String.ofList (s.map Char.toLower))

def readPort (s : List Char) : Except UrlError (Option Nat) :=
  match s with
  | [] | [':'] => .ok none
  | ':' :: ds =>
    let n := ds.foldl (fun n d => 10 * n + (d.toNat - '0'.toNat)) 0
    if ds.all Char.isDigit && n < 65536 then .ok (some n) else .error .badPort
  | _ => .error .badPort

/-! ## Paths -/

/-- The steps of a path without those that stay and those that go back. -/
def resolveSteps (done : List String) : List String → List String
  | [] => done.reverse
  | ["."] => ("" :: done).reverse
  | [".."] => ("" :: done.tail).reverse
  | "." :: r => resolveSteps done r
  | ".." :: r => resolveSteps done.tail r
  | s :: r => resolveSteps (s :: done) r

def hexByte (b : UInt8) : List Char := [b.toNat / 16, b.toNat % 16].map fun n => (Nat.digitChar n).toUpper

/-- A character as it is written in a path. -/
def encodeChar (c : Char) : List Char :=
  if c.toNat ≤ 0x20 || 0x7F ≤ c.toNat || "\"#<>?`\x7b\x7d".toList.contains c then
    (String.singleton c).toUTF8.toList.flatMap fun b => '%' :: hexByte b
  else [c]

def readPath (s : List Char) : String :=
  let raw := (s.takeWhile fun c => c != '?' && c != '#').map fun c => if c == '\\' then '/' else c
  let steps := resolveSteps [] ((String.ofList (raw.drop 1)).splitOn "/")
  "/" ++ String.ofList ("/".intercalate steps).toList |>.toList.flatMap encodeChar |> String.ofList

/-! ## Addresses -/

namespace Url

def read (text : String) : Except UrlError Url :=
  let s := text.toList.filter fun c => c != '\t' && c != '\n' && c != '\r'
  match scheme? (s.dropWhile fun c => c.toNat ≤ 0x20) with
  | none => .error .relative
  | some (scheme, r) => do
    let r := r.dropWhile fun c => c == '/' || c == '\\'
    let isEnd (c : Char) : Bool := c == '/' || c == '\\' || c == '?' || c == '#'
    let authority := r.takeWhile (!isEnd ·)
    let (hostText, portText) := splitHost (afterUser authority)
    let host ← readHost hostText
    let port ← readPort portText
    return ⟨String.ofList scheme, host, port, readPath (r.drop authority.length)⟩

def standardPort (u : Url) : Nat := if u.scheme == "https" then 443 else 80

/-- The scheme, the host and the port. -/
def origin (u : Url) : String := u.scheme ++ "://" ++ u.host ++ s!":{u.port.getD u.standardPort}"

end Url

end SchemaMigration.Http
