import MountProbe.Binary64.Basic
import MountProbe.Binary64.Decimal
import MountProbe.Collector.Basic
import MountProbe.Collector.Timetable
import MountProbe.Collector.Traffic
import MountProbe.Command.Grammar
import MountProbe.Command.Run
import MountProbe.Command.Table
import MountProbe.Command.Usage
import MountProbe.Errno
import MountProbe.Failure
import MountProbe.FileTree.Basic
import MountProbe.FileTree.Change
import MountProbe.Filter
import MountProbe.Gauge.Exposition
import MountProbe.Gauge.Family
import MountProbe.Gauge.Mounts
import MountProbe.Journal.Clerk
import MountProbe.Journal.Entry
import MountProbe.Journal.Logger
import MountProbe.Journal.Reader
import MountProbe.Journal.Stamp
import MountProbe.Journal.Writer
import MountProbe.Json
import MountProbe.Json.Reader
import MountProbe.Main
import MountProbe.Mount.HostRoot
import MountProbe.Mount.Label
import MountProbe.Mount.Source
import MountProbe.Mount.Table
import MountProbe.Path
import MountProbe.Pattern.CharSet
import MountProbe.Pattern.ClassReader
import MountProbe.Pattern.Expr
import MountProbe.Pattern.Reader
import MountProbe.Pattern.Scan
import MountProbe.Pattern.Search
import MountProbe.Pool
import MountProbe.Pool.Crew
import MountProbe.Proofs.Binary64.Dividing
import MountProbe.Proofs.Binary64.Rounding
import MountProbe.Proofs.Collector.Agreement
import MountProbe.Proofs.Collector.Alone
import MountProbe.Proofs.Collector.Balance
import MountProbe.Proofs.Collector.Between
import MountProbe.Proofs.Collector.Course
import MountProbe.Proofs.Collector.Drive
import MountProbe.Proofs.Collector.Found
import MountProbe.Proofs.Collector.InTurn
import MountProbe.Proofs.Collector.Notices
import MountProbe.Proofs.Collector.Orderly
import MountProbe.Proofs.Collector.Overlap
import MountProbe.Proofs.Collector.Progress
import MountProbe.Proofs.Collector.Records
import MountProbe.Proofs.Collector.Reports
import MountProbe.Proofs.Collector.Rows
import MountProbe.Proofs.Collector.Sayings
import MountProbe.Proofs.Collector.Schedule
import MountProbe.Proofs.Collector.Steps
import MountProbe.Proofs.Command.Scrape
import MountProbe.Proofs.Command.Sizes
import MountProbe.Proofs.Command.Watching
import MountProbe.Proofs.Crew.Books
import MountProbe.Proofs.Crew.Outside
import MountProbe.Proofs.Crew.Service
import MountProbe.Proofs.Crew.Steps
import MountProbe.Proofs.Crew.Work
import MountProbe.Proofs.Failing
import MountProbe.Proofs.FileTree.Above
import MountProbe.Proofs.FileTree.Agreeing
import MountProbe.Proofs.FileTree.Atomic
import MountProbe.Proofs.FileTree.Beside
import MountProbe.Proofs.FileTree.Confined
import MountProbe.Proofs.FileTree.Elsewhere
import MountProbe.Proofs.FileTree.Entries
import MountProbe.Proofs.FileTree.Files
import MountProbe.Proofs.FileTree.Held
import MountProbe.Proofs.FileTree.Opening
import MountProbe.Proofs.FileTree.Prepared
import MountProbe.Proofs.FileTree.Publishing
import MountProbe.Proofs.FileTree.Quiet
import MountProbe.Proofs.FileTree.Spared
import MountProbe.Proofs.FileTree.Stretches
import MountProbe.Proofs.FileTree.Ways
import MountProbe.Proofs.Gauge.Firsts
import MountProbe.Proofs.Gauge.Mounts
import MountProbe.Proofs.Gauge.Series
import MountProbe.Proofs.Gauge.Spelling
import MountProbe.Proofs.Journal.Accounts
import MountProbe.Proofs.Journal.Apart
import MountProbe.Proofs.Journal.Count
import MountProbe.Proofs.Journal.Course
import MountProbe.Proofs.Journal.Fates
import MountProbe.Proofs.Journal.Moves
import MountProbe.Proofs.Journal.Names
import MountProbe.Proofs.Journal.Office
import MountProbe.Proofs.Journal.Orders
import MountProbe.Proofs.Journal.Outlets
import MountProbe.Proofs.Journal.Pages
import MountProbe.Proofs.Journal.Places
import MountProbe.Proofs.Journal.ReadBack
import MountProbe.Proofs.Journal.Sessions
import MountProbe.Proofs.Journal.Settled
import MountProbe.Proofs.Journal.Shelf
import MountProbe.Proofs.Journal.Sinks
import MountProbe.Proofs.Journal.Touches
import MountProbe.Proofs.Journal.Trouble
import MountProbe.Proofs.Journal.Turns
import MountProbe.Proofs.Json.Line
import MountProbe.Proofs.Json.Reading
import MountProbe.Proofs.Json.Unique
import MountProbe.Proofs.Mount.Escape
import MountProbe.Proofs.Mount.HostRoot
import MountProbe.Proofs.Mount.Kernel
import MountProbe.Proofs.Mount.Octal
import MountProbe.Proofs.Mount.ReadBack
import MountProbe.Proofs.Mount.Shape
import MountProbe.Proofs.Mount.Sides
import MountProbe.Proofs.Mount.Source
import MountProbe.Proofs.Path.Above
import MountProbe.Proofs.Path.Apart
import MountProbe.Proofs.Path.Below
import MountProbe.Proofs.Path.Order
import MountProbe.Proofs.Path.Pieces
import MountProbe.Proofs.Path.Text
import MountProbe.Proofs.Pattern.Reading
import MountProbe.Proofs.Pattern.Search
import MountProbe.Proofs.Pattern.Usual
import MountProbe.Proofs.Pattern.Words
import MountProbe.Proofs.Pool.Books
import MountProbe.Proofs.Pool.Steps
import MountProbe.Proofs.Pool.Work
import MountProbe.Proofs.Settings.Again
import MountProbe.Proofs.Settings.Checked
import MountProbe.Proofs.Settings.Edits
import MountProbe.Proofs.Settings.Environment
import MountProbe.Proofs.Settings.Fingerprint
import MountProbe.Proofs.Settings.Layers
import MountProbe.Proofs.Settings.Loaded
import MountProbe.Proofs.Settings.Slash
import MountProbe.Proofs.Settings.Valid
import MountProbe.Proofs.Stat.Counts
import MountProbe.Proofs.Stuck.Lifting
import MountProbe.Proofs.Stuck.OneCall
import MountProbe.Proofs.Stuck.Places
import MountProbe.Proofs.Stuck.Quarantine
import MountProbe.Proofs.Stuck.Steps
import MountProbe.Proofs.Stuck.Telling
import MountProbe.Proofs.Text.Cutting
import MountProbe.Proofs.Text.Reading
import MountProbe.Proofs.Text.Slice
import MountProbe.Proofs.Text.Utf8
import MountProbe.Proofs.Watch.Cycles
import MountProbe.Proofs.Watch.Edited
import MountProbe.Proofs.Watch.Ending
import MountProbe.Proofs.Watch.Following
import MountProbe.Proofs.Watch.Jotting
import MountProbe.Proofs.Watch.Published
import MountProbe.Proofs.Watch.Reload
import MountProbe.Proofs.Watch.Requests
import MountProbe.Proofs.Watch.Rounds
import MountProbe.Proofs.Watch.Steady
import MountProbe.Proofs.Watch.Steps
import MountProbe.Rehearsal
import MountProbe.Settings.Basic
import MountProbe.Settings.Document
import MountProbe.Settings.Load
import MountProbe.Settings.Print
import MountProbe.Stat.Counts
import MountProbe.Stat.Record
import MountProbe.Stuck.Race
import MountProbe.Stuck.Registry
import MountProbe.Stuck.Request
import MountProbe.Text.Blank
import MountProbe.Text.Numeral
import MountProbe.Text.Quoted
import MountProbe.Text.Slice
import MountProbe.Text.Utf8
import MountProbe.Textfile
import MountProbe.Toml.Document
import MountProbe.Toml.Lexeme
import MountProbe.Toml.Quoted
import MountProbe.Toml.Value
import MountProbe.Unicode.CaseFolding
import MountProbe.Unicode.Category
import MountProbe.Unicode.Printable
import MountProbe.Unicode.Ranges
import MountProbe.Unicode.Script
import MountProbe.Unicode.Word
import MountProbe.Watch.Loop
import MountProbe.Watch.Signals
