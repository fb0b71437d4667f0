import CommandShell.Builtin.All
import CommandShell.Builtin.Basic
import CommandShell.Builtin.Find
import CommandShell.Builtin.Help
import CommandShell.Builtin.Service
import CommandShell.Calendar.Date
import CommandShell.Calendar.Format
import CommandShell.Calendar.Moment
import CommandShell.Chain
import CommandShell.Chain.Reader
import CommandShell.Command.Definition
import CommandShell.Command.Help
import CommandShell.Command.Parameter
import CommandShell.Command.Registry
import CommandShell.Command.Verification
import CommandShell.Config.Defaults
import CommandShell.Config.File
import CommandShell.Config.Fingerprint
import CommandShell.Config.Merge
import CommandShell.Context
import CommandShell.Diagnostics.Compression
import CommandShell.Diagnostics.Log
import CommandShell.Digest.Sha256
import CommandShell.Engine.Handler
import CommandShell.Engine.State
import CommandShell.Engine.Token
import CommandShell.Failure
import CommandShell.Json.Canonical
import CommandShell.Json.Reader
import CommandShell.Line
import CommandShell.Markup.Find
import CommandShell.Markup.Mark
import CommandShell.Markup.NameTable
import CommandShell.Markup.Reference
import CommandShell.Number.Arithmetic
import CommandShell.Number.Binary64
import CommandShell.Number.Decimal
import CommandShell.Number.Numeral
import CommandShell.Number.Shortest
import CommandShell.Output
import CommandShell.Pattern.Fold
import CommandShell.Pattern.Matcher
import CommandShell.Pattern.Reader
import CommandShell.Pattern.Span
import CommandShell.Pattern.Tree
import CommandShell.Presenter.Call
import CommandShell.Problem
import CommandShell.Service
import CommandShell.Session.Build
import CommandShell.Session.Delay
import CommandShell.Session.Execution
import CommandShell.Session.Queue
import CommandShell.Session.Reply
import CommandShell.Session.Schedule
import CommandShell.Session.Services
import CommandShell.Session.Settings
import CommandShell.Session.State
import CommandShell.Session.Watch
import CommandShell.Table
import CommandShell.Text.Blank
import CommandShell.Text.Case
import CommandShell.Text.CaseTable
import CommandShell.Text.CasedTable
import CommandShell.Text.Digit
import CommandShell.Text.DigitTable
import CommandShell.Text.Quoted
import CommandShell.Text.Ranges
import CommandShell.Text.UnprintableTable
import CommandShell.Text.Word
import CommandShell.Text.WordTable
import CommandShell.Value
import CommandShell.Yaml.Cursor
import CommandShell.Yaml.Document
import CommandShell.Yaml.Node
import CommandShell.Yaml.Scalar
import CommandShell.Yaml.Token
import CommandShell.Yaml.Token.Lexer
import CommandShell.Yaml.Token.Names
import CommandShell.Yaml.Token.Scalars
import CommandShell.Proofs.Calendar.Date
import CommandShell.Proofs.Calendar.Moment
import CommandShell.Proofs.Calendar.Stamp
import CommandShell.Proofs.Chain.Normal
import CommandShell.Proofs.Chain.RoundTrip
import CommandShell.Proofs.Chain.Scanning
import CommandShell.Proofs.Chain.Trimming
import CommandShell.Proofs.Command.Admission
import CommandShell.Proofs.Command.Alias
import CommandShell.Proofs.Command.Conversion
import CommandShell.Proofs.Command.Effect
import CommandShell.Proofs.Command.Flags
import CommandShell.Proofs.Command.Listing
import CommandShell.Proofs.Command.Names
import CommandShell.Proofs.Command.Precedence
import CommandShell.Proofs.Command.Registration
import CommandShell.Proofs.Command.Requirement
import CommandShell.Proofs.Command.Spelling
import CommandShell.Proofs.Command.Visibility
import CommandShell.Proofs.Config.Entries
import CommandShell.Proofs.Config.Grouping
import CommandShell.Proofs.Config.Merge
import CommandShell.Proofs.Diagnostics.Dump
import CommandShell.Proofs.Diagnostics.Runs
import CommandShell.Proofs.Diagnostics.Stamps
import CommandShell.Proofs.Engine.Answers
import CommandShell.Proofs.Engine.Hooks
import CommandShell.Proofs.Engine.Moves
import CommandShell.Proofs.Engine.Owed
import CommandShell.Proofs.Engine.Row
import CommandShell.Proofs.Engine.Stages
import CommandShell.Proofs.Engine.WakeUp
import CommandShell.Proofs.Markup.Find
import CommandShell.Proofs.Markup.Mark
import CommandShell.Proofs.Markup.Reference
import CommandShell.Proofs.Number.Binary64
import CommandShell.Proofs.Number.Digits
import CommandShell.Proofs.Number.Nearest
import CommandShell.Proofs.Number.Numeral
import CommandShell.Proofs.Number.Shortest
import CommandShell.Proofs.Number.Text
import CommandShell.Proofs.Output.Conservation
import CommandShell.Proofs.Pattern.Span
import CommandShell.Proofs.Text.Segment
import CommandShell.Proofs.Result
import CommandShell.Proofs.Json.Order
import CommandShell.Proofs.Json.Canonical
import CommandShell.Proofs.Json.Token
import CommandShell.Proofs.Session.Alternation
import CommandShell.Proofs.Session.Batch
import CommandShell.Proofs.Session.Build
import CommandShell.Proofs.Session.Callers
import CommandShell.Proofs.Session.Calls
import CommandShell.Proofs.Session.Cancellation
import CommandShell.Proofs.Session.Containment
import CommandShell.Proofs.Session.Course
import CommandShell.Proofs.Session.Guarding
import CommandShell.Proofs.Session.Healing
import CommandShell.Proofs.Session.Interruption
import CommandShell.Proofs.Session.Invocation
import CommandShell.Proofs.Session.Look
import CommandShell.Proofs.Session.Outcome
import CommandShell.Proofs.Session.Pacing
import CommandShell.Proofs.Session.Promise
import CommandShell.Proofs.Session.Prompting
import CommandShell.Proofs.Session.Prospect
import CommandShell.Proofs.Session.Queue
import CommandShell.Proofs.Session.Reach
import CommandShell.Proofs.Session.Record
import CommandShell.Proofs.Session.Recovery
import CommandShell.Proofs.Session.Scene
import CommandShell.Proofs.Session.Schedule
import CommandShell.Proofs.Session.Shell
import CommandShell.Proofs.Session.Strokes
import CommandShell.Proofs.Session.Task
import CommandShell.Proofs.Session.Telling
import CommandShell.Proofs.Session.Tending
import CommandShell.Proofs.Session.Transcript
import CommandShell.Proofs.Session.Turns
import CommandShell.Proofs.Session.Upkeep
import CommandShell.Proofs.Session.Verdict
import CommandShell.Proofs.Session.Watching
import CommandShell.Proofs.Session.Work
