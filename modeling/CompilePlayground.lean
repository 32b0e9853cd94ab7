import CompilePlayground.Category
import CompilePlayground.Compilation
import CompilePlayground.Config
import CompilePlayground.Decimal.Binary64
import CompilePlayground.Decimal.Power
import CompilePlayground.Decimal.Shortest
import CompilePlayground.Failure
import CompilePlayground.Html.Builder
import CompilePlayground.Html.Doctype
import CompilePlayground.Html.Document
import CompilePlayground.Html.Formatting
import CompilePlayground.Html.Lexer
import CompilePlayground.Html.Mode.Body
import CompilePlayground.Html.Mode.Foreign
import CompilePlayground.Html.Mode.Head
import CompilePlayground.Html.Mode.Outer
import CompilePlayground.Html.Mode.Table
import CompilePlayground.Html.Page
import CompilePlayground.Html.RawText
import CompilePlayground.Html.Reference.Decode
import CompilePlayground.Html.Reference.LowerNames
import CompilePlayground.Html.Reference.UpperNames
import CompilePlayground.Html.TagScan
import CompilePlayground.Html.Token
import CompilePlayground.Html.Tree
import CompilePlayground.Http.Date
import CompilePlayground.Http.FileKind
import CompilePlayground.Http.FileResponse
import CompilePlayground.Http.Forwarded
import CompilePlayground.Http.MediaType
import CompilePlayground.Http.Message
import CompilePlayground.Http.Range
import CompilePlayground.Http.Rejection
import CompilePlayground.Http.Sharing
import CompilePlayground.Http.Wire
import CompilePlayground.Json.Cursor
import CompilePlayground.Json.Reader
import CompilePlayground.Json.Record
import CompilePlayground.Json.Scalar
import CompilePlayground.Json.Value
import CompilePlayground.Json.Writer
import CompilePlayground.Log
import CompilePlayground.Log.Filter
import CompilePlayground.Main
import CompilePlayground.Message
import CompilePlayground.Network.Address
import CompilePlayground.Network.Interfaces
import CompilePlayground.Options.CommandLine
import CompilePlayground.Options.Failure
import CompilePlayground.Options.Flag
import CompilePlayground.Options.Value
import CompilePlayground.Posix.Disk
import CompilePlayground.Posix.Ending
import CompilePlayground.Posix.Installation
import CompilePlayground.Posix.Launch
import CompilePlayground.Posix.Machine
import CompilePlayground.Posix.Path
import CompilePlayground.Posix.Program
import CompilePlayground.Posix.Signal
import CompilePlayground.Posix.Spawn
import CompilePlayground.Posix.SystemError
import CompilePlayground.Posix.Turn
import CompilePlayground.Proofs.Category.Choosing
import CompilePlayground.Proofs.Category.Outcome
import CompilePlayground.Proofs.Category.Rendered
import CompilePlayground.Proofs.Category.RoundTrip
import CompilePlayground.Proofs.Compilation.Apart
import CompilePlayground.Proofs.Compilation.Briefing
import CompilePlayground.Proofs.Compilation.Call
import CompilePlayground.Proofs.Compilation.CleanUp
import CompilePlayground.Proofs.Compilation.Clearing
import CompilePlayground.Proofs.Compilation.Doing
import CompilePlayground.Proofs.Compilation.Dwelling
import CompilePlayground.Proofs.Compilation.Hearing
import CompilePlayground.Proofs.Compilation.Isolation
import CompilePlayground.Proofs.Compilation.Matching
import CompilePlayground.Proofs.Compilation.Milestones
import CompilePlayground.Proofs.Compilation.Overtime
import CompilePlayground.Proofs.Compilation.Preparing
import CompilePlayground.Proofs.Compilation.Standing
import CompilePlayground.Proofs.Compilation.Starting
import CompilePlayground.Proofs.Compilation.Workshop
import CompilePlayground.Proofs.Html.Building
import CompilePlayground.Proofs.Html.Escaping
import CompilePlayground.Proofs.Html.Forests
import CompilePlayground.Proofs.Html.Growing
import CompilePlayground.Proofs.Html.Leaving
import CompilePlayground.Proofs.Html.Reading
import CompilePlayground.Proofs.Html.Spots
import CompilePlayground.Proofs.Html.Tagging
import CompilePlayground.Proofs.Html.Walking
import CompilePlayground.Proofs.Json.Messages
import CompilePlayground.Proofs.Json.Records
import CompilePlayground.Proofs.Json.Scalars
import CompilePlayground.Proofs.Json.Spellings
import CompilePlayground.Proofs.Json.Values
import CompilePlayground.Proofs.Options.Mentions
import CompilePlayground.Proofs.Options.Resolution
import CompilePlayground.Proofs.Options.Settings
import CompilePlayground.Proofs.Options.Values
import CompilePlayground.Proofs.Posix.Descent
import CompilePlayground.Proofs.Posix.Directories
import CompilePlayground.Proofs.Posix.Filling
import CompilePlayground.Proofs.Posix.Finding
import CompilePlayground.Proofs.Posix.Growth
import CompilePlayground.Proofs.Posix.Hosting
import CompilePlayground.Proofs.Posix.Housing
import CompilePlayground.Proofs.Posix.Locate
import CompilePlayground.Proofs.Posix.Lookup
import CompilePlayground.Proofs.Posix.Names
import CompilePlayground.Proofs.Posix.Planting
import CompilePlayground.Proofs.Posix.Reading
import CompilePlayground.Proofs.Posix.Recording
import CompilePlayground.Proofs.Posix.Running
import CompilePlayground.Proofs.Posix.Sharing
import CompilePlayground.Proofs.Posix.Telling
import CompilePlayground.Proofs.Posix.Views
import CompilePlayground.Proofs.Posix.Walk
import CompilePlayground.Proofs.Service.Allowance
import CompilePlayground.Proofs.Service.Asking
import CompilePlayground.Proofs.Service.Books
import CompilePlayground.Proofs.Service.Channel
import CompilePlayground.Proofs.Service.Confined
import CompilePlayground.Proofs.Service.Courses
import CompilePlayground.Proofs.Service.Deeds
import CompilePlayground.Proofs.Service.Delivering
import CompilePlayground.Proofs.Service.Drain
import CompilePlayground.Proofs.Service.Entries
import CompilePlayground.Proofs.Service.ExactlyOnce
import CompilePlayground.Proofs.Service.FirstLines
import CompilePlayground.Proofs.Service.Footprints
import CompilePlayground.Proofs.Service.InBand
import CompilePlayground.Proofs.Service.InTurn
import CompilePlayground.Proofs.Service.JobNames
import CompilePlayground.Proofs.Service.Keeping
import CompilePlayground.Proofs.Service.Laws
import CompilePlayground.Proofs.Service.Leftovers
import CompilePlayground.Proofs.Service.Limiting
import CompilePlayground.Proofs.Service.Logging
import CompilePlayground.Proofs.Service.Metering
import CompilePlayground.Proofs.Service.OneVersion
import CompilePlayground.Proofs.Service.Rates
import CompilePlayground.Proofs.Service.Sending
import CompilePlayground.Proofs.Service.Settling
import CompilePlayground.Proofs.Service.Shifts
import CompilePlayground.Proofs.Service.Trials
import CompilePlayground.Proofs.Service.Working
import CompilePlayground.Proofs.Startup.Flags
import CompilePlayground.Proofs.Text.Decoding
import CompilePlayground.Proofs.Worker.Clients
import CompilePlayground.Proofs.Worker.Shift
import CompilePlayground.Report
import CompilePlayground.Service.Basic
import CompilePlayground.Service.Endpoint
import CompilePlayground.Service.RateLimit
import CompilePlayground.Service.Route
import CompilePlayground.Service.Schedule
import CompilePlayground.Service.Turn
import CompilePlayground.Service.Version
import CompilePlayground.Shell.Arithmetic
import CompilePlayground.Shell.Builtin
import CompilePlayground.Shell.Command
import CompilePlayground.Shell.Condition
import CompilePlayground.Shell.Fields
import CompilePlayground.Shell.Format
import CompilePlayground.Shell.Interpreter
import CompilePlayground.Shell.Pattern
import CompilePlayground.Shell.Reader
import CompilePlayground.Shell.Redirect
import CompilePlayground.Shell.Session
import CompilePlayground.Startup
import CompilePlayground.Text.Blank
import CompilePlayground.Text.Hidden
import CompilePlayground.Text.Octets
import CompilePlayground.Text.Printable
import CompilePlayground.Text.Quoted
import CompilePlayground.Text.Similarity
import CompilePlayground.Text.Utf8
import CompilePlayground.Time.Span
import CompilePlayground.Utility.Arguments
import CompilePlayground.Utility.Files
import CompilePlayground.Utility.Filters
import CompilePlayground.Worker
