import SchemaMigration.Clickhouse.Address
import SchemaMigration.Clickhouse.Client
import SchemaMigration.Clickhouse.Engine
import SchemaMigration.Clickhouse.Names
import SchemaMigration.Clickhouse.Queries
import SchemaMigration.Clickhouse.RowBinary
import SchemaMigration.Clickhouse.Template
import SchemaMigration.Command.Basic
import SchemaMigration.Command.Failure
import SchemaMigration.CommandLine.Invocation
import SchemaMigration.CommandLine.LogFilter
import SchemaMigration.CommandLine.Words
import SchemaMigration.Digest.Sha256
import SchemaMigration.Fault
import SchemaMigration.Files
import SchemaMigration.History.Diff
import SchemaMigration.History.Record
import SchemaMigration.History.Report
import SchemaMigration.History.Status
import SchemaMigration.Http.Message
import SchemaMigration.Http.Url
import SchemaMigration.Http.Wire
import SchemaMigration.Main
import SchemaMigration.Migration.Basic
import SchemaMigration.Migration.FileName
import SchemaMigration.Migration.Folder
import SchemaMigration.Migration.Set
import SchemaMigration.Program
import SchemaMigration.Proofs.Clickhouse.CutOff
import SchemaMigration.Proofs.Clickhouse.Exclusion
import SchemaMigration.Proofs.Clickhouse.Inquiries
import SchemaMigration.Proofs.Clickhouse.LockDialogue
import SchemaMigration.Proofs.Clickhouse.LockQuery
import SchemaMigration.Proofs.Clickhouse.LockRow
import SchemaMigration.Proofs.Clickhouse.LockSystem
import SchemaMigration.Proofs.Clickhouse.LockTable
import SchemaMigration.Proofs.Clickhouse.Names
import SchemaMigration.Proofs.Clickhouse.Opening
import SchemaMigration.Proofs.Clickhouse.Rows
import SchemaMigration.Proofs.Clickhouse.Sending
import SchemaMigration.Proofs.Clickhouse.Templates
import SchemaMigration.Proofs.Clickhouse.Tokens
import SchemaMigration.Proofs.Clickhouse.Verbatim
import SchemaMigration.Proofs.Files
import SchemaMigration.Proofs.History.Agreement
import SchemaMigration.Proofs.History.Comparison
import SchemaMigration.Proofs.History.Retouched
import SchemaMigration.Proofs.History.Status
import SchemaMigration.Proofs.History.Table
import SchemaMigration.Proofs.Migration.Entries
import SchemaMigration.Proofs.Migration.FileName
import SchemaMigration.Proofs.Migration.Listing
import SchemaMigration.Proofs.Migration.Load
import SchemaMigration.Proofs.Migration.Sets
import SchemaMigration.Proofs.Run.Bracket
import SchemaMigration.Proofs.Run.Conversation
import SchemaMigration.Proofs.Run.Course
import SchemaMigration.Proofs.Run.Crowd
import SchemaMigration.Proofs.Run.Drift
import SchemaMigration.Proofs.Run.DryRun
import SchemaMigration.Proofs.Run.Entered
import SchemaMigration.Proofs.Run.LockContract
import SchemaMigration.Proofs.Run.Migrating
import SchemaMigration.Proofs.Run.Outcome
import SchemaMigration.Proofs.Run.Pending
import SchemaMigration.Proofs.Run.Play
import SchemaMigration.Proofs.Run.Rehearsed
import SchemaMigration.Proofs.Run.Repeated
import SchemaMigration.Proofs.Run.Resumed
import SchemaMigration.Proofs.Run.Serialised
import SchemaMigration.Proofs.Run.Session
import SchemaMigration.Proofs.Run.StatusHistory
import SchemaMigration.Proofs.Run.Underway
import SchemaMigration.Proofs.Script.Balanced
import SchemaMigration.Proofs.Script.Contents
import SchemaMigration.Proofs.Script.Extent
import SchemaMigration.Proofs.Script.Fragments
import SchemaMigration.Proofs.Script.Gaps
import SchemaMigration.Proofs.Script.Head
import SchemaMigration.Proofs.Script.Modes
import SchemaMigration.Proofs.Script.Pieces
import SchemaMigration.Proofs.Script.Regions
import SchemaMigration.Proofs.Script.Split
import SchemaMigration.Proofs.Script.Statements
import SchemaMigration.Proofs.Script.Triggers
import SchemaMigration.Proofs.Settings.Layers
import SchemaMigration.Proofs.Sql.Frame
import SchemaMigration.Proofs.Sql.Published
import SchemaMigration.Proofs.Sql.Quiet
import SchemaMigration.Proofs.Sqlite.Apply
import SchemaMigration.Proofs.Sqlite.Book
import SchemaMigration.Proofs.Sqlite.InFile
import SchemaMigration.Proofs.Sqlite.Lawful
import SchemaMigration.Proofs.Sqlite.Locking
import SchemaMigration.Proofs.Sqlite.Order
import SchemaMigration.Proofs.Sqlite.ReadBack
import SchemaMigration.Proofs.Sqlite.Reading
import SchemaMigration.Proofs.Sqlite.Records
import SchemaMigration.Proofs.Sqlite.Refinement
import SchemaMigration.Proofs.Sqlite.Unreadable
import SchemaMigration.Proofs.Text.Trim
import SchemaMigration.Proofs.Time.Calendar
import SchemaMigration.Proofs.Time.StoredText
import SchemaMigration.Proofs.Time.TableText
import SchemaMigration.Run.Call
import SchemaMigration.Run.Dialogue
import SchemaMigration.Run.Event
import SchemaMigration.Run.Holder
import SchemaMigration.Run.Migrate
import SchemaMigration.Run.Rehearsal
import SchemaMigration.Script.Prepare
import SchemaMigration.Script.Splitter
import SchemaMigration.Script.TriggerHead
import SchemaMigration.Settings.Basic
import SchemaMigration.Settings.Document
import SchemaMigration.Settings.Kinds
import SchemaMigration.Settings.Layer
import SchemaMigration.Settings.Load
import SchemaMigration.Settings.OfToml
import SchemaMigration.Settings.OfYaml
import SchemaMigration.Settings.VariableFile
import SchemaMigration.Sql.Binary64
import SchemaMigration.Sql.Database
import SchemaMigration.Sql.Draft
import SchemaMigration.Sql.Dump
import SchemaMigration.Sql.Execution
import SchemaMigration.Sql.Refusal
import SchemaMigration.Sql.Statement
import SchemaMigration.Sql.Token
import SchemaMigration.Sql.Value
import SchemaMigration.Sqlite.Bookkeeping
import SchemaMigration.Sqlite.Content
import SchemaMigration.Sqlite.Engine
import SchemaMigration.Sqlite.Executor
import SchemaMigration.Sqlite.Target
import SchemaMigration.Text.Alphabetic
import SchemaMigration.Text.Blank
import SchemaMigration.Text.Character
import SchemaMigration.Text.Extenders
import SchemaMigration.Text.IllFormed
import SchemaMigration.Text.Invisible
import SchemaMigration.Text.JsonString
import SchemaMigration.Text.Numeric
import SchemaMigration.Text.Quoted
import SchemaMigration.Text.Ranges
import SchemaMigration.Text.WordMarks
import SchemaMigration.Time.Calendar
import SchemaMigration.Time.Instant
import SchemaMigration.Time.Printer
import SchemaMigration.Time.Reader
import SchemaMigration.Toml.Document
import SchemaMigration.Toml.Scalar
import SchemaMigration.Toml.Text
import SchemaMigration.Toml.Value
import SchemaMigration.Yaml.Cursor
import SchemaMigration.Yaml.Node
import SchemaMigration.Yaml.Scalar
import SchemaMigration.Yaml.Token
