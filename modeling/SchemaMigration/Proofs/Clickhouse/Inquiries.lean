import Mathlib.Data.List.Forall2
import SchemaMigration.Clickhouse.Engine
import SchemaMigration.Proofs.Clickhouse.Tokens

/-!
# The queries that are built from names

`Inquiry`            : the queries in which the names of a connection stand as they are.
`Inquiry.template`   : each as it is handed to the client, with places for its `values`.
`Inquiry.tokens`     : what each should say.
`lex_template`       : under accepted names that is what it says.
`names_tokens`, `count_place_tokens` : in it stand the names as given, and a place for each value.
`places_extended`    : so the client finds as many places as it is given values.
-/

namespace SchemaMigration.Clickhouse

set_option autoImplicit false

/-- The queries in which the names of a connection stand. -/
inductive Inquiry
  | createDatabase
  | createRecordTable
  | createLockTable
  | holders
  | addHolder (holder : String)
  | removeHolder (holder : String)
  | clearHolders
  | records
  | addRecord (record : Record)
  deriving DecidableEq, Repr

namespace Inquiry

/-- The query as it is handed to the client. Tables and databases are made by texts without places. -/
def template (c : Connection) : Inquiry → String
  | createDatabase => doubleMarks (Query.createDatabase c)
  | createRecordTable => doubleMarks (Query.createRecordTable c)
  | createLockTable => doubleMarks (Query.createLockTable c)
  | holders => Query.holders c
  | addHolder _ => Query.addHolder c
  | removeHolder _ => Query.removeHolder c
  | clearHolders => Query.clearHolders c
  | records => Query.records c
  | addRecord _ => Query.addRecord c

/-- The query with what the client adds to it: rows are to come in binary. -/
def extended (c : Connection) : Inquiry → String
  | holders => holders.template c ++ " FORMAT RowBinary"
  | records => records.template c ++ " FORMAT RowBinary"
  | q => q.template c

/-- The values for the places. -/
def values : Inquiry → List String
  | addHolder holder | removeHolder holder => [textLiteral holder]
  | addRecord r => recordValues r
  | _ => []

/-! ## What the queries should say -/

def words (ws : List String) : List Token := ws.map .word

def tableTokens (database table : String) : List Token := [.name database, .symbol '.', .name table]

def clusterTokens : Option String → List Token
  | some cluster => [.word "ON", .word "CLUSTER", .name cluster]
  | none => []

/-- A comma, and `'UTC'` before the bracket that closes. -/
def inUtc : List Token := [.symbol ',', .literal "UTC", .symbol ')']

def engineTokens : Option String → List Token
  | some _ => [.word "ReplicatedMergeTree", .symbol '(',
      .literal "/clickhouse/tables/\x7bshard\x7d/\x7bdatabase\x7d/\x7btable\x7d", .symbol ',',
      .literal "\x7breplica\x7d", .symbol ')']
  | none => [.word "MergeTree"]

def createTableTokens (database : String) (cluster : Option String) (table : String) (columns order : List Token) :
    List Token :=
  words ["CREATE", "TABLE", "IF", "NOT", "EXISTS"] ++ tableTokens database table ++ clusterTokens cluster ++
    [.symbol '('] ++ columns ++ [.symbol ')', .word "ENGINE", .symbol '='] ++ engineTokens cluster ++
    words ["ORDER", "BY"] ++ order

def timeColumn (name : String) : List Token :=
  [.word name, .word "DateTime64", .symbol '(', .word "3"] ++ inUtc

/-- The tokens of a query. -/
def tokens (database : String) (cluster : Option String) : Inquiry → List Token
  | createDatabase => words ["CREATE", "DATABASE", "IF", "NOT", "EXISTS"] ++ [.name database] ++ clusterTokens cluster
  | createRecordTable => createTableTokens database cluster recordTable
      ([.word "version", .word "UInt64", .symbol ',', .word "name", .word "String", .symbol ',', .word "checksum",
        .word "String", .symbol ',', .word "applied_by", .word "String", .symbol ','] ++ timeColumn "applied_at")
      [.word "version"]
  | createLockTable => createTableTokens database cluster lockTable
      ([.word "holder", .word "String", .symbol ','] ++ timeColumn "acquired_at")
      [.symbol '(', .word "acquired_at", .symbol ',', .word "holder", .symbol ')']
  | holders => words ["SELECT", "holder", "FROM"] ++ tableTokens database lockTable ++
      [.word "ORDER", .word "BY", .word "acquired_at", .symbol ',', .word "holder"]
  | addHolder _ => words ["INSERT", "INTO"] ++ tableTokens database lockTable ++
      [.symbol '(', .word "holder", .symbol ',', .word "acquired_at", .symbol ')', .word "SELECT", .place, .symbol ',',
        .word "now64", .symbol '(', .word "3"] ++ inUtc
  | removeHolder _ => words ["ALTER", "TABLE"] ++ tableTokens database lockTable ++ clusterTokens cluster ++
      words ["DELETE", "WHERE", "holder"] ++ [.symbol '=', .place] ++ words ["SETTINGS", "mutations_sync"] ++
      [.symbol '=', .word "2"]
  | clearHolders => words ["TRUNCATE", "TABLE"] ++ tableTokens database lockTable ++ clusterTokens cluster
  | records => [.word "SELECT", .word "version", .symbol ',', .word "name", .symbol ',', .word "checksum", .symbol ',',
        .word "applied_by", .symbol ',', .word "toUnixTimestamp64Milli", .symbol '(', .word "applied_at", .symbol ')',
        .word "AS", .word "applied_at_ms", .word "FROM"] ++ tableTokens database recordTable ++
      words ["ORDER", "BY", "version", "ASC"]
  | addRecord _ => words ["INSERT", "INTO"] ++ tableTokens database recordTable ++
      [.symbol '(', .word "version", .symbol ',', .word "name", .symbol ',', .word "checksum", .symbol ',',
        .word "applied_by", .symbol ',', .word "applied_at", .symbol ')', .word "SELECT", .place, .symbol ',', .place,
        .symbol ',', .place, .symbol ',', .place, .symbol ',', .word "fromUnixTimestamp64Milli", .symbol '(',
        .word "toInt64", .symbol '(', .place, .symbol ')'] ++ inUtc

/-- The names in a query. -/
def names (database : String) (cluster : Option String) : Inquiry → List String
  | createDatabase => database :: cluster.toList
  | createRecordTable => database :: recordTable :: cluster.toList
  | createLockTable | removeHolder _ | clearHolders => database :: lockTable :: cluster.toList
  | holders | addHolder _ => [database, lockTable]
  | records | addRecord _ => [database, recordTable]

theorem names_tokens (database : String) (cluster : Option String) (q : Inquiry) :
    (q.tokens database cluster).filterMap Token.name? = q.names database cluster := by
  cases q <;> cases cluster <;> rfl

theorem count_place_tokens (database : String) (cluster : Option String) (q : Inquiry) :
    (q.tokens database cluster).count .place = q.values.length := by
  cases q <;> cases cluster <;> rfl

end Inquiry

open Inquiry (clusterTokens createTableTokens engineTokens inUtc tableTokens timeColumn words)

/-! ## Parts of the queries -/

/-- Lines are read one after another, wherever they are indented. -/
theorem lex_layOut {lines : List (Nat × String)} {tss : List (List Token)}
    (h : List.Forall₂ (fun line ts => lex line.2 = some ts) lines tss) : lex (layOut lines) = some tss.flatten := by
  have hindented {line : Nat × String} {ts : List Token} (hline : lex line.2 = some ts) :
      lex (String.ofList (List.replicate line.1 ' ') ++ line.2) = some ts := by
    have hblanks : Reads (String.ofList (List.replicate line.1 ' ')) [] := by
      rw [Reads, String.toList_ofList]
      induction line.1 with
      | zero => rfl
      | succ n ih => exact Lexer.run_cons_iff.2 ⟨[], .between, [], rfl, ih, rfl⟩
    exact hblanks.lex_append hline
  unfold layOut
  induction h with
  | nil => rfl
  | @cons line ts lines tss hline hlines ih =>
    cases hlines with
    | nil =>
      rw [List.flatten_singleton]
      exact hindented hline
    | cons hnext hrest =>
      rw [List.map_cons, List.map_cons, String.intercalate_cons_cons]
      have hbreak : Reads "\n" [] := rfl
      have hended := reads_append_of_blank (hindented hline) hbreak rfl rfl
      rw [List.append_nil] at hended
      exact hended.lex_append ih

theorem lex_tableEngine (cluster : Option String) : lex (Query.tableEngine cluster) = some (engineTokens cluster) := by
  cases cluster with
  | none => rfl
  | some cluster =>
    -- which cluster it is makes no difference
    have hany : lex (Query.tableEngine (some "")) = some (engineTokens (some "")) := by decide +kernel
    exact hany

section

variable {c : Connection} (h : HasNames c)

include h

theorem HasNames.reads_tableName {table : String} (htable : isName table = true) :
    Reads (tableName c.database table) (tableTokens c.database table) := by
  have hdot : Reads "." [.symbol '.'] := rfl
  exact ((reads_quoteName h.database).append hdot).append (reads_quoteName htable)

theorem HasNames.reads_recordTable : Reads (tableName c.database recordTable) (tableTokens c.database recordTable) :=
  h.reads_tableName (by decide)

theorem HasNames.reads_lockTable : Reads (tableName c.database lockTable) (tableTokens c.database lockTable) :=
  h.reads_tableName (by decide)

theorem HasNames.reads_onCluster : Reads (onCluster c.cluster) (clusterTokens c.cluster) := by
  cases hc : c.cluster with
  | none => rfl
  | some cluster =>
    have hclause : Reads " ON CLUSTER " [.word "ON", .word "CLUSTER"] := rfl
    exact hclause.append (reads_quoteName (h.cluster cluster hc))

/-! ## The queries -/

theorem HasNames.lex_createDatabase :
    lex (Query.createDatabase c) = some (Inquiry.createDatabase.tokens c.database c.cluster) := by
  have hcreate : Reads "CREATE DATABASE IF NOT EXISTS " (words ["CREATE", "DATABASE", "IF", "NOT", "EXISTS"]) := by
    decide
  exact ((hcreate.append (reads_quoteName h.database)).append h.reads_onCluster).lex

/-- A table is made with the columns and in the order that are read from their texts. -/
theorem HasNames.lex_createTable {table order : String} {columns : List String} {columnTokens : List (List Token)}
    {orderTokens : List Token} (htable : isName table = true)
    (hcolumns : List.Forall₂ (fun column ts => lex column = some ts) columns columnTokens)
    (horder : lex order = some orderTokens) :
    lex (Query.createTable c table columns order) =
      some (createTableTokens c.database c.cluster table columnTokens.flatten orderTokens) := by
  have hcreate : Reads "CREATE TABLE IF NOT EXISTS " (words ["CREATE", "TABLE", "IF", "NOT", "EXISTS"]) := by decide
  have hopen : Reads " (" [.symbol '('] := rfl
  have hengine : Reads ") ENGINE = " [.symbol ')', .word "ENGINE", .symbol '='] := by decide
  have horderBy : Reads " ORDER BY " (words ["ORDER", "BY"]) := by decide
  have hfirst := (((hcreate.append (h.reads_tableName htable)).append h.reads_onCluster).append hopen).lex
  have hlast :=
    (reads_append_of_blank (hengine.lex_append (lex_tableEngine c.cluster)) horderBy rfl rfl).lex_append horder
  have hcolumnLines : List.Forall₂ (fun line ts => lex line.2 = some ts) (columns.map (16, ·)) columnTokens :=
    List.forall₂_map_left_iff.2 hcolumns
  have hlines := lex_layOut (List.rel_append (List.rel_append (.cons (a := (0, _)) hfirst .nil) hcolumnLines)
    (.cons (a := (12, _)) hlast .nil))
  rw [Query.createTable, hlines, createTableTokens]
  simp only [List.flatten_append, List.flatten_singleton, List.append_assoc]

theorem HasNames.lex_holders : lex (Query.holders c) = some (Inquiry.holders.tokens c.database c.cluster) := by
  have hselect : Reads "SELECT holder FROM " (words ["SELECT", "holder", "FROM"]) := by decide
  have horder : lex " ORDER BY acquired_at, holder" =
      some [.word "ORDER", .word "BY", .word "acquired_at", .symbol ',', .word "holder"] := by decide
  exact (hselect.append h.reads_lockTable).lex_append horder

theorem HasNames.lex_addHolder (holder : String) :
    lex (Query.addHolder c) = some ((Inquiry.addHolder holder).tokens c.database c.cluster) := by
  have hinsert : Reads "INSERT INTO " (words ["INSERT", "INTO"]) := by decide
  have hselect : lex " (holder, acquired_at) SELECT ?, now64(3, 'UTC')" =
      some ([.symbol '(', .word "holder", .symbol ',', .word "acquired_at", .symbol ')', .word "SELECT", .place,
        .symbol ',', .word "now64", .symbol '(', .word "3"] ++ inUtc) := by decide
  rw [Inquiry.tokens, List.append_assoc]
  exact (hinsert.append h.reads_lockTable).lex_append hselect

theorem HasNames.lex_removeHolder (holder : String) :
    lex (Query.removeHolder c) = some ((Inquiry.removeHolder holder).tokens c.database c.cluster) := by
  have halter : Reads "ALTER TABLE " (words ["ALTER", "TABLE"]) := by decide
  have hdelete : lex " DELETE WHERE holder = ? SETTINGS mutations_sync = 2" =
      some (words ["DELETE", "WHERE", "holder"] ++ [.symbol '=', .place] ++ words ["SETTINGS", "mutations_sync"] ++
        [.symbol '=', .word "2"]) := by decide
  have hquery := ((halter.append h.reads_lockTable).append h.reads_onCluster).lex_append hdelete
  rw [Query.removeHolder, hquery, Inquiry.tokens]
  simp only [List.append_assoc]

theorem HasNames.lex_clearHolders :
    lex (Query.clearHolders c) = some (Inquiry.clearHolders.tokens c.database c.cluster) := by
  have htruncate : Reads "TRUNCATE TABLE " (words ["TRUNCATE", "TABLE"]) := by decide
  exact ((htruncate.append h.reads_lockTable).append h.reads_onCluster).lex

theorem HasNames.lex_createRecordTable :
    lex (Query.createRecordTable c) = some (Inquiry.createRecordTable.tokens c.database c.cluster) := by
  have hversion : lex "version UInt64," = some [.word "version", .word "UInt64", .symbol ','] := by decide
  have hname : lex "name String," = some [.word "name", .word "String", .symbol ','] := by decide
  have hchecksum : lex "checksum String," = some [.word "checksum", .word "String", .symbol ','] := by decide
  have hby : lex "applied_by String," = some [.word "applied_by", .word "String", .symbol ','] := by decide
  have hat : lex "applied_at DateTime64(3, 'UTC')" = some (timeColumn "applied_at") := by decide
  have horder : lex "version" = some [.word "version"] := by decide
  rw [Query.createRecordTable, h.lex_createTable (by decide)
    (.cons hversion (.cons hname (.cons hchecksum (.cons hby (.cons hat .nil))))) horder]
  rfl

theorem HasNames.lex_createLockTable :
    lex (Query.createLockTable c) = some (Inquiry.createLockTable.tokens c.database c.cluster) := by
  have hholder : lex "holder String," = some [.word "holder", .word "String", .symbol ','] := by decide
  have hat : lex "acquired_at DateTime64(3, 'UTC')" = some (timeColumn "acquired_at") := by decide
  have horder : lex "(acquired_at, holder)" =
      some [.symbol '(', .word "acquired_at", .symbol ',', .word "holder", .symbol ')'] := by decide
  rw [Query.createLockTable, h.lex_createTable (by decide) (.cons hholder (.cons hat .nil)) horder]
  rfl

theorem HasNames.lex_records : lex (Query.records c) = some (Inquiry.records.tokens c.database c.cluster) := by
  have hselect : lex "SELECT version, name, checksum, applied_by," = some [.word "SELECT", .word "version", .symbol ',',
      .word "name", .symbol ',', .word "checksum", .symbol ',', .word "applied_by", .symbol ','] := by decide
  have htime : lex "toUnixTimestamp64Milli(applied_at) AS applied_at_ms" =
      some [.word "toUnixTimestamp64Milli", .symbol '(', .word "applied_at", .symbol ')', .word "AS",
        .word "applied_at_ms"] := by decide
  have hfrom : Reads "FROM " [.word "FROM"] := by decide
  have horder : lex "ORDER BY version ASC" = some (words ["ORDER", "BY", "version", "ASC"]) := by decide
  exact lex_layOut (.cons (a := (0, _)) hselect (.cons (a := (32, _)) htime
    (.cons (a := (25, _)) (hfrom.append h.reads_recordTable).lex (.cons (a := (25, _)) horder .nil))))

theorem HasNames.lex_addRecord (r : Record) :
    lex (Query.addRecord c) = some ((Inquiry.addRecord r).tokens c.database c.cluster) := by
  have hinsert : Reads "INSERT INTO " (words ["INSERT", "INTO"]) := by decide
  have hcolumns : lex " (version, name, checksum, applied_by, applied_at)" = some [.symbol '(', .word "version",
      .symbol ',', .word "name", .symbol ',', .word "checksum", .symbol ',', .word "applied_by", .symbol ',',
      .word "applied_at", .symbol ')'] := by decide
  have hselect : lex "SELECT ?, ?, ?, ?, fromUnixTimestamp64Milli(toInt64(?), 'UTC')" =
      some ([.word "SELECT", .place, .symbol ',', .place, .symbol ',', .place, .symbol ',', .place, .symbol ',',
        .word "fromUnixTimestamp64Milli", .symbol '(', .word "toInt64", .symbol '(', .place, .symbol ')'] ++ inUtc) := by
    decide
  exact lex_layOut (.cons (a := (0, _)) ((hinsert.append h.reads_recordTable).lex_append hcolumns)
    (.cons (a := (25, _)) hselect .nil))

/-- Under accepted names each query says what it should. -/
theorem HasNames.lex_template (q : Inquiry) : lex (q.template c) = some (q.tokens c.database c.cluster) := by
  have hdoubled {s : String} (hlex : lex s = some (q.tokens c.database c.cluster)) (hvalues : q.values = []) :
      lex (doubleMarks s) = some (q.tokens c.database c.cluster) := by
    have hplaces : places s = 0 := by rw [← count_place_of_lex hlex, Inquiry.count_place_tokens, hvalues, List.length_nil]
    rw [doubleMarks_of_places hplaces, hlex]
  cases q with
  | createDatabase => exact hdoubled h.lex_createDatabase rfl
  | createRecordTable => exact hdoubled h.lex_createRecordTable rfl
  | createLockTable => exact hdoubled h.lex_createLockTable rfl
  | holders => exact h.lex_holders
  | addHolder holder => exact h.lex_addHolder holder
  | removeHolder holder => exact h.lex_removeHolder holder
  | clearHolders => exact h.lex_clearHolders
  | records => exact h.lex_records
  | addRecord r => exact h.lex_addRecord r

/-- The client finds a place for each value. -/
theorem HasNames.places_extended (q : Inquiry) : places (q.extended c) = q.values.length := by
  have htemplate : places (q.template c) = q.values.length := by
    rw [← count_place_of_lex (h.lex_template q), q.count_place_tokens]
  have hformat : places " FORMAT RowBinary" = 0 := rfl
  cases q with
  | holders | records => exact (places_append _ _).trans (by rw [htemplate, hformat, Nat.add_zero])
  | _ => exact htemplate

end

end SchemaMigration.Clickhouse
