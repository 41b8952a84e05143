import SchemaMigration.Settings.Basic

/-!
# Addresses of servers

`Connection.serverAddress` : the address of the server that the host names.
-/

namespace SchemaMigration

set_option autoImplicit false

def namesScheme : List Char → Bool
  | [] => false
  | c :: r => [':', '/', '/'].isPrefixOf (c :: r) || namesScheme r

/-- The address of the server that the host names: with a scheme as it is, otherwise over plain HTTP, at the standard port
if none is given. -/
def Connection.serverAddress (c : Connection) : String :=
  let host := (c.host.toList.reverse.dropWhile (· == '/')).reverse
  let h := String.ofList host
  if namesScheme host then h
  else if host.contains ':' then "http://" ++ h
  else "http://" ++ h ++ ":8123"

end SchemaMigration
