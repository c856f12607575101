import MarkupLint.Adapter.Pass
import MarkupLint.Adapter.Schedule
import MarkupLint.Adapter.State
import MarkupLint.Adapter.TaskPool
import MarkupLint.CommandLine.Arguments
import MarkupLint.CommandLine.Help
import MarkupLint.CommandLine.Lint
import MarkupLint.CommandLine.Run
import MarkupLint.Commented.Reader
import MarkupLint.Commented.Token
import MarkupLint.Diagnostic
import MarkupLint.Document.Cache
import MarkupLint.Document.Config
import MarkupLint.Document.Snapshot
import MarkupLint.Finding.Basic
import MarkupLint.Finding.Output
import MarkupLint.Glob.Match
import MarkupLint.Glob.Parse
import MarkupLint.Host.Completion
import MarkupLint.Host.FileTree
import MarkupLint.Host.Launch
import MarkupLint.Host.Pattern
import MarkupLint.Host.Script
import MarkupLint.Host.Shell
import MarkupLint.Host.Tool
import MarkupLint.Json.Basic
import MarkupLint.Json.Canonical
import MarkupLint.Json.Cursor
import MarkupLint.Json.Fault
import MarkupLint.Json.Field
import MarkupLint.Json.Literal
import MarkupLint.Json.Printer
import MarkupLint.Json.Reader
import MarkupLint.LintError
import MarkupLint.Linter.Program
import MarkupLint.Main
import MarkupLint.Map.Dict
import MarkupLint.Map.Entries
import MarkupLint.Number.Binary64
import MarkupLint.Number.Shortest
import MarkupLint.Path
import MarkupLint.Protocol.Frame
import MarkupLint.Protocol.Message
import MarkupLint.Protocol.Parameters
import MarkupLint.Protocol.Shape
import MarkupLint.Rule.Configuration
import MarkupLint.Rule.Setting
import MarkupLint.Schema.Basic
import MarkupLint.Server.Backend
import MarkupLint.Server.Decode
import MarkupLint.Server.Outgoing
import MarkupLint.Server.Session
import MarkupLint.Server.State
import MarkupLint.Settings.Basic
import MarkupLint.Settings.Decode
import MarkupLint.Settings.Exclude
import MarkupLint.Settings.File
import MarkupLint.Settings.Load
import MarkupLint.Text.Alphanumeric
import MarkupLint.Text.Blank
import MarkupLint.Text.Printable
import MarkupLint.Text.Quoted
import MarkupLint.Text.Range
import MarkupLint.Text.Utf8
import MarkupLint.Url.Basic
import MarkupLint.Url.Encode
import MarkupLint.Url.Host
import MarkupLint.Url.Parse
import MarkupLint.Url.Punycode
import MarkupLint.Proofs.Adapter.History
import MarkupLint.Proofs.Adapter.Moves
import MarkupLint.Proofs.Adapter.Lock
import MarkupLint.Proofs.Adapter.Trails
import MarkupLint.Proofs.Adapter.Steps
import MarkupLint.Proofs.Adapter.Turns
import MarkupLint.Proofs.Adapter.PublishOrder
import MarkupLint.Proofs.Adapter.CloseBarrier
import MarkupLint.Proofs.Adapter.LatestResult
import MarkupLint.Proofs.Adapter.ConfigurationFreshness
import MarkupLint.Proofs.Adapter.ClosedConfiguration
import MarkupLint.Proofs.Adapter.Orders
import MarkupLint.Proofs.Server.Effects
import MarkupLint.Proofs.Server.CurrentText
import MarkupLint.Proofs.Adapter.Usage
import MarkupLint.Proofs.Server.SettingsReach
import MarkupLint.Proofs.Server.EditedText
import MarkupLint.Proofs.Adapter.GivenSettings
import MarkupLint.Proofs.Server.SettingsInStep
import MarkupLint.Proofs.Glob.Rests
import MarkupLint.Proofs.Glob.Spelling
import MarkupLint.Proofs.Settings.Exclusion
import MarkupLint.Proofs.Json.Values
import MarkupLint.Proofs.Schema.Acceptance
import MarkupLint.Proofs.Settings.Format
import MarkupLint.Proofs.Settings.Layering
import MarkupLint.Proofs.Path.Parts
import MarkupLint.Proofs.Url.FilePath
import MarkupLint.Proofs.Document.SharedKey
import MarkupLint.Proofs.Settings.Loading
import MarkupLint.Proofs.Settings.Alike
import MarkupLint.Proofs.Server.Reload
import MarkupLint.Proofs.Server.WatchedFiles
import MarkupLint.Proofs.Map.Folds
import MarkupLint.Proofs.Rule.Setting
import MarkupLint.Proofs.Json.Reads
import MarkupLint.Proofs.Json.ReadBack
import MarkupLint.Proofs.Rule.Configuration
import MarkupLint.Proofs.Text.Encoding
import MarkupLint.Proofs.Linter.Request
import MarkupLint.Proofs.Adapter.Views
import MarkupLint.Proofs.Adapter.Work
import MarkupLint.Proofs.Adapter.Stints
import MarkupLint.Proofs.Adapter.Updates
import MarkupLint.Proofs.Adapter.Failures
import MarkupLint.Proofs.Adapter.Reports
import MarkupLint.Proofs.Adapter.Alone
import MarkupLint.Proofs.Adapter.VisibleSet
import MarkupLint.Proofs.CommandLine.Report
import MarkupLint.Proofs.Diagnostic.LineRange
import MarkupLint.Proofs.Json.Grammar
import MarkupLint.Proofs.Json.Outcomes
import MarkupLint.Proofs.Json.Skipping
import MarkupLint.Proofs.Json.Containers
import MarkupLint.Proofs.Json.Compact
import MarkupLint.Proofs.Finding.Output
import MarkupLint.Proofs.Finding.RoundTrip
import MarkupLint.Proofs.Document.CacheHistory
import MarkupLint.Proofs.Adapter.RememberedSettings
import MarkupLint.Proofs.Server.Publications
