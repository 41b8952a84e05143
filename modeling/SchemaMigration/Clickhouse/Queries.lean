import SchemaMigration.Clickhouse.Names
import SchemaMigration.Clickhouse.Template

/-!
# The queries

Every query as a template, built from the names of the database and the cluster.
-/

namespace SchemaMigration.Clickhouse

set_option autoImplicit false

def recordTable : String := "_migrun_migrations"

/-- The table of the lock, which has one row for each holder that asked for it. -/
def lockTable : String := "_migrun_lock"

def tableName (database table : String) : String := quoteName database ++ "." ++ quoteName table

/-- Lines one below the other, each indented by its number of blanks. -/
def layOut (lines : List (Nat × String)) : String :=
  "\n".intercalate (lines.map fun (n, s) => String.ofList (List.replicate n ' ') ++ s)

namespace Query

/-- Whether a database is there: its name. -/
def databaseCount : String := "SELECT count() FROM system.databases WHERE name = ?"

def createDatabase (c : Connection) : String :=
  "CREATE DATABASE IF NOT EXISTS " ++ quoteName c.database ++ onCluster c.cluster

/-- Whether a table is there: its database and its name. -/
def tableCount : String := "SELECT count() FROM system.tables WHERE database = ? AND name = ?"

def tableEngine (cluster : Option String) : String :=
  match cluster with
  | some _ =>
    "ReplicatedMergeTree('/clickhouse/tables/\x7bshard\x7d/\x7bdatabase\x7d/\x7btable\x7d', '\x7breplica\x7d')"
  | none => "MergeTree"

def createTable (c : Connection) (table : String) (columns : List String) (order : String) : String :=
  layOut ([(0, "CREATE TABLE IF NOT EXISTS " ++ tableName c.database table ++ onCluster c.cluster ++ " (")] ++
    columns.map (16, ·) ++ [(12, ") ENGINE = " ++ tableEngine c.cluster ++ " ORDER BY " ++ order)])

def createRecordTable (c : Connection) : String :=
  createTable c recordTable
    ["version UInt64,", "name String,", "checksum String,", "applied_by String,", "applied_at DateTime64(3, 'UTC')"]
    "version"

def createLockTable (c : Connection) : String :=
  createTable c lockTable ["holder String,", "acquired_at DateTime64(3, 'UTC')"] "(acquired_at, holder)"

def holders (c : Connection) : String :=
  "SELECT holder FROM " ++ tableName c.database lockTable ++ " ORDER BY acquired_at, holder"

/-- One more holder: its name. -/
def addHolder (c : Connection) : String :=
  "INSERT INTO " ++ tableName c.database lockTable ++ " (holder, acquired_at) SELECT ?, now64(3, 'UTC')"

/-- One holder less: its name. -/
def removeHolder (c : Connection) : String :=
  "ALTER TABLE " ++ tableName c.database lockTable ++ onCluster c.cluster ++
    " DELETE WHERE holder = ? SETTINGS mutations_sync = 2"

def clearHolders (c : Connection) : String :=
  "TRUNCATE TABLE " ++ tableName c.database lockTable ++ onCluster c.cluster

def records (c : Connection) : String :=
  layOut [(0, "SELECT version, name, checksum, applied_by,"),
    (32, "toUnixTimestamp64Milli(applied_at) AS applied_at_ms"),
    (25, "FROM " ++ tableName c.database recordTable), (25, "ORDER BY version ASC")]

/-- One more record: its version, name, checksum, user and time in milliseconds. -/
def addRecord (c : Connection) : String :=
  layOut [(0, "INSERT INTO " ++ tableName c.database recordTable ++
      " (version, name, checksum, applied_by, applied_at)"),
    (25, "SELECT ?, ?, ?, ?, fromUnixTimestamp64Milli(toInt64(?), 'UTC')")]

end Query

end SchemaMigration.Clickhouse
