import SchemaMigration.Sql.Dump

/-!
# What files hold

`Content`           : bytes, or a database.
`Content.toBytes`   : the bytes that are kept of it; a database is kept as a script under a mark.
`Content.ofBytes`   : what bytes hold.
`Content.database?` : the database in a file.
-/

namespace SchemaMigration.Sqlite

set_option autoImplicit false

open Sql (Database)

inductive Content
  | bytes (b : ByteArray)
  | database (db : Database)

namespace Content

/-- The line at the beginning of a database that is kept as a script. -/
def mark : String := "-- database\n"

def toBytes : Content → ByteArray
  | bytes b => b
  | database db => (mark ++ db.dump).toUTF8

def databaseOfBytes? (b : ByteArray) : Option Database := do
  let text ← String.fromUTF8? b
  if text.startsWith mark then Database.restore? text else none

def ofBytes (b : ByteArray) : Content := (databaseOfBytes? b).elim (bytes b) database

/-- The database in a file; a file without bytes is one without tables. -/
def database? : Content → Option Database
  | bytes b => if b.isEmpty then some .empty else none
  | database db => some db

end Content

end SchemaMigration.Sqlite
