import LanguageClient.Arguments
import LanguageClient.Client.Basic
import LanguageClient.Client.Documents
import LanguageClient.Client.Lifecycle
import LanguageClient.Client.Rehearsal
import LanguageClient.Client.Tasks
import LanguageClient.Connection.Basic
import LanguageClient.Connection.Incoming
import LanguageClient.Connection.Step
import LanguageClient.Diagnostic
import LanguageClient.Document
import LanguageClient.Emitter
import LanguageClient.Emitter.Reaction
import LanguageClient.Failure
import LanguageClient.FileTree
import LanguageClient.FileTree.Installed
import LanguageClient.Frame
import LanguageClient.Goal
import LanguageClient.Handshake
import LanguageClient.Json.Basic
import LanguageClient.Json.Double
import LanguageClient.Json.Printer
import LanguageClient.Json.Reader
import LanguageClient.Json.Shape
import LanguageClient.Location
import LanguageClient.Log
import LanguageClient.Main
import LanguageClient.Message
import LanguageClient.Notice
import LanguageClient.Path
import LanguageClient.Position
import LanguageClient.Posix.Process.Basic
import LanguageClient.Posix.Process.Image
import LanguageClient.Posix.Process.Program
import LanguageClient.Posix.Process.System
import LanguageClient.Program.Basic
import LanguageClient.Program.Commands
import LanguageClient.Program.Files
import LanguageClient.Program.Handler
import LanguageClient.Program.Machine
import LanguageClient.Proofs.Client.Calls
import LanguageClient.Proofs.Client.Mirror
import LanguageClient.Proofs.Client.Outcome
import LanguageClient.Proofs.Client.Replay
import LanguageClient.Proofs.Connection.Change
import LanguageClient.Proofs.Connection.Correlation
import LanguageClient.Proofs.Connection.Ending
import LanguageClient.Proofs.Connection.Pending
import LanguageClient.Proofs.Connection.Registration
import LanguageClient.Proofs.Connection.Run
import LanguageClient.Proofs.Frame.Header
import LanguageClient.Proofs.Frame.Stream
import LanguageClient.Proofs.Table
import LanguageClient.Proofs.Text.Number
import LanguageClient.Report
import LanguageClient.Selector
import LanguageClient.Session.Basic
import LanguageClient.Session.Host
import LanguageClient.Session.Launch
import LanguageClient.Settings
import LanguageClient.Settings.Environment
import LanguageClient.Settings.Sources
import LanguageClient.Settings.Toml
import LanguageClient.Posix.Shell.Basic
import LanguageClient.Posix.Shell.Builtin
import LanguageClient.Posix.Shell.Fields
import LanguageClient.Posix.Shell.Invocation
import LanguageClient.Posix.Shell.Pattern
import LanguageClient.Posix.Shell.Reader
import LanguageClient.Posix.Shell.Run
import LanguageClient.Posix.Shell.State
import LanguageClient.Posix.Shell.Sum
import LanguageClient.Table
import LanguageClient.Text.Blank
import LanguageClient.Text.Digits
import LanguageClient.Text.Lines
import LanguageClient.Text.Lowercase
import LanguageClient.Text.Printable
import LanguageClient.Text.Quoted
import LanguageClient.Toml.Basic
import LanguageClient.Toml.Reader
import LanguageClient.Toml.Scalar
import LanguageClient.Uri
import LanguageClient.Posix.Utility.Basic
import LanguageClient.Posix.Utility.Condition
import LanguageClient.Posix.Utility.Edit
import LanguageClient.Posix.Utility.Expression
import LanguageClient.Posix.Utility.Files
import LanguageClient.Posix.Utility.Format
import LanguageClient.Posix.Utility.Regex
import LanguageClient.Posix.Utility.Run
import LanguageClient.Posix.Utility.Streams
import LanguageClient.Proofs.Client.Course
import LanguageClient.Proofs.Client.Started
import LanguageClient.Proofs.Client.Synchronized
import LanguageClient.Proofs.Client.Announcement
import LanguageClient.Proofs.Client.Tasks.Lock
import LanguageClient.Proofs.Client.Tasks.Sessions
import LanguageClient.Proofs.Client.Tasks.Turns
import LanguageClient.Proofs.Json.Record
import LanguageClient.Proofs.Position
import LanguageClient.Proofs.Diagnostic.Reencoding
import LanguageClient.Proofs.Json.Alike
import LanguageClient.Proofs.Diagnostic.Severity
import LanguageClient.Proofs.Client.Tasks.Work
import LanguageClient.Proofs.Client.Tasks.Diagnostics
import LanguageClient.Proofs.Client.Tidy
import LanguageClient.Proofs.Client.Tasks.Overtaking
import LanguageClient.Proofs.Client.Tasks.Reopening
import LanguageClient.Proofs.Connection.Filing
import LanguageClient.Proofs.Json.Rereading
import LanguageClient.Proofs.Json.Rounding
import LanguageClient.Proofs.Message
import LanguageClient.Proofs.Message.Kinds
import LanguageClient.Proofs.Connection.Delivery
import LanguageClient.Proofs.Connection.Termination
import LanguageClient.Proofs.Frame.Messages
import LanguageClient.Proofs.Connection.Conversation
import LanguageClient.Proofs.Connection.Retention
import LanguageClient.Proofs.Connection.Turn
import LanguageClient.Proofs.Connection.Latecomers
import LanguageClient.Proofs.Connection.Fate
import LanguageClient.Proofs.Connection.Shutdown
import LanguageClient.Proofs.Connection.Parting
import LanguageClient.Proofs.Connection.Silence
import LanguageClient.Proofs.Emitter.Agenda
import LanguageClient.Proofs.Emitter.Hearing
import LanguageClient.Proofs.Emitter.Order
import LanguageClient.Proofs.FileTree
import LanguageClient.Proofs.Location.Reading
import LanguageClient.Proofs.Location.Validity
import LanguageClient.Proofs.Program.Startup
import LanguageClient.Proofs.Program.Setup
import LanguageClient.Proofs.Json.Indented
import LanguageClient.Proofs.Json.Numerals
import LanguageClient.Proofs.Json.Grammar
import LanguageClient.Proofs.Report
import LanguageClient.Proofs.Program.Runs
import LanguageClient.Proofs.Program.Service
import LanguageClient.Proofs.Program.Stopping
import LanguageClient.Proofs.Program.Reporting
import LanguageClient.Proofs.Client.Changing
import LanguageClient.Proofs.Client.Refreshing
import LanguageClient.Proofs.Client.Elsewhere
import LanguageClient.Proofs.Client.Closing
import LanguageClient.Proofs.Client.Renewal
import LanguageClient.Proofs.Client.Omission
import LanguageClient.Proofs.Frame.Bodies
import LanguageClient.Proofs.Frame.Lines
import LanguageClient.Proofs.Frame.Acceptance
import LanguageClient.Proofs.Uri
import LanguageClient.Proofs.Settings.Overrides
import LanguageClient.Proofs.Settings.Layers
import LanguageClient.Proofs.Report.Diagnostics
import LanguageClient.Proofs.Report.Envelope
import LanguageClient.Proofs.Emitter.Membership
import LanguageClient.Proofs.Path
import LanguageClient.Proofs.Frame.Capacity
import LanguageClient.Proofs.Connection.Overrun
