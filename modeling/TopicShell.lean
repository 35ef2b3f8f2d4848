import TopicShell.Broker.Acknowledgement
import TopicShell.Broker.Address
import TopicShell.Broker.Client
import TopicShell.Broker.Delivery
import TopicShell.Broker.Uri
import TopicShell.Color
import TopicShell.Command
import TopicShell.CommandLine
import TopicShell.Completion
import TopicShell.Console
import TopicShell.Data.Datum
import TopicShell.Data.Json
import TopicShell.Files.Path
import TopicShell.Files.Tree
import TopicShell.Help
import TopicShell.Line.Chain
import TopicShell.Line.Heredoc
import TopicShell.Line.Words
import TopicShell.LineReader
import TopicShell.Logging
import TopicShell.Macro.Engine
import TopicShell.Macro.Expansion
import TopicShell.Macro.Placeholder
import TopicShell.Macro.Script
import TopicShell.Macro.Spec
import TopicShell.Main
import TopicShell.Number.Places
import TopicShell.Number.Ratio
import TopicShell.Number.Real
import TopicShell.Number.Shortest
import TopicShell.Pipeline.Basic
import TopicShell.Pipeline.Execution
import TopicShell.Pipeline.Sink
import TopicShell.PrefixedOutput
import TopicShell.Program.Builtin
import TopicShell.Program.Columns
import TopicShell.Program.Copying
import TopicShell.Program.Editing
import TopicShell.Program.Expansion
import TopicShell.Program.Glob
import TopicShell.Program.Job
import TopicShell.Program.Launch
import TopicShell.Program.Options
import TopicShell.Program.Ordering
import TopicShell.Program.Pattern
import TopicShell.Program.Replacing
import TopicShell.Program.Script
import TopicShell.Program.Searching
import TopicShell.Program.Shell
import TopicShell.Program.Showing
import TopicShell.Program.Tools
import TopicShell.Program.Wiring
import TopicShell.Program.Writing
import TopicShell.Session.Basic
import TopicShell.Session.Lines
import TopicShell.Session.Messages
import TopicShell.Session.Registry
import TopicShell.Session.Subscription
import TopicShell.Settings.Basic
import TopicShell.Settings.Check
import TopicShell.Settings.Library
import TopicShell.Settings.Load
import TopicShell.Settings.Standard
import TopicShell.Settings.VariableFile
import TopicShell.Shell
import TopicShell.Template.Arguments
import TopicShell.Template.Arithmetic
import TopicShell.Template.Error
import TopicShell.Template.ExprParser
import TopicShell.Template.Fault
import TopicShell.Template.Filter
import TopicShell.Template.Format
import TopicShell.Template.Method
import TopicShell.Template.Names
import TopicShell.Template.Node
import TopicShell.Template.Parser
import TopicShell.Template.Render
import TopicShell.Template.Token
import TopicShell.Template.Value
import TopicShell.Text.Blank
import TopicShell.Text.Case
import TopicShell.Text.Digit
import TopicShell.Text.Escape
import TopicShell.Text.Integer
import TopicShell.Text.Literal
import TopicShell.Text.Pieces
import TopicShell.Text.Printable
import TopicShell.Text.Utf8
import TopicShell.Text.Utf8.Fault
import TopicShell.Text.Word
import TopicShell.Yaml.Cursor
import TopicShell.Yaml.Document
import TopicShell.Yaml.Fault
import TopicShell.Yaml.Lexer
import TopicShell.Yaml.Node
import TopicShell.Yaml.Scalar
import TopicShell.Yaml.Tag
import TopicShell.Yaml.Token
import TopicShell.Proofs.Session.Actions
import TopicShell.Proofs.Session.Changes
import TopicShell.Proofs.Session.Runs
import TopicShell.Proofs.Session.Writers
import TopicShell.Proofs.Session.Mirror
import TopicShell.Proofs.Session.Attachment
import TopicShell.Proofs.Session.FailedSubscription
import TopicShell.Proofs.Line.Chains
import TopicShell.Proofs.Line.Words
import TopicShell.Proofs.Line.Quoting
import TopicShell.Proofs.Macro.Placeholders
import TopicShell.Proofs.Macro.Invocations
import TopicShell.Proofs.Macro.Scripts
import TopicShell.Proofs.Macro.Pipes
import TopicShell.Proofs.Line.Heredocs
import TopicShell.Proofs.Pipeline.Stages
import TopicShell.Proofs.Pipeline.Targets
import TopicShell.Proofs.PrefixedOutput
import TopicShell.Proofs.Pipeline.Processes
import TopicShell.Proofs.Pipeline.Sinks
import TopicShell.Proofs.Session.Endings
import TopicShell.Proofs.Broker.Actions
import TopicShell.Proofs.Broker.Workers
import TopicShell.Proofs.Broker.FailedSubscription
import TopicShell.Proofs.Broker.Acknowledgements
import TopicShell.Proofs.Broker.Handling
import TopicShell.Proofs.Session.Reconnections
import TopicShell.Proofs.Session.TopicLists
import TopicShell.Proofs.Files.Tree
import TopicShell.Proofs.Session.Redirects
import TopicShell.Proofs.Shell
import TopicShell.Proofs.Session.Publications
import TopicShell.Proofs.Logging
import TopicShell.Proofs.Settings.Sources
import TopicShell.Proofs.Settings.Precedence
import TopicShell.Proofs.Settings.Failures
import TopicShell.Proofs.Line.CutShort
import TopicShell.Proofs.Text.Numerals
import TopicShell.Proofs.Arguments
import TopicShell.Proofs.Pipeline.Outcome
import TopicShell.Proofs.Rotation
import TopicShell.Proofs.Text.Letters
import TopicShell.Proofs.Broker.Uris
import TopicShell.Proofs.Broker.Addresses
import TopicShell.Proofs.Text.Escapes
import TopicShell.Proofs.Text.Spelling
import TopicShell.Proofs.Settings.Prompts
