import QueryWarden.Cache.Basic
import QueryWarden.Cache.Run
import QueryWarden.Cache.Scenario
import QueryWarden.Cli.Arguments
import QueryWarden.Cli.Run
import QueryWarden.Clock.Moment
import QueryWarden.Clock.Schedule
import QueryWarden.Config.Settings
import QueryWarden.Config.Store
import QueryWarden.Database.Alteration
import QueryWarden.Database.Arithmetic
import QueryWarden.Database.Catalog
import QueryWarden.Database.Change
import QueryWarden.Database.ChangePlan
import QueryWarden.Database.Connection
import QueryWarden.Database.Definition
import QueryWarden.Database.Driver
import QueryWarden.Database.Evaluation
import QueryWarden.Database.Executor
import QueryWarden.Database.File
import QueryWarden.Database.Function.Adjustment
import QueryWarden.Database.Function.Aggregate
import QueryWarden.Database.Function.Calendar
import QueryWarden.Database.Function.Format
import QueryWarden.Database.Function.Moment
import QueryWarden.Database.Function.Scalar
import QueryWarden.Database.Function.Text
import QueryWarden.Database.Grammar.Query
import QueryWarden.Database.Grammar.Statement
import QueryWarden.Database.Introspection
import QueryWarden.Database.Numeral
import QueryWarden.Database.Plan
import QueryWarden.Database.Prepared
import QueryWarden.Database.Reach
import QueryWarden.Database.Reader
import QueryWarden.Database.Resolution
import QueryWarden.Database.Resolution.Scope
import QueryWarden.Database.Resolution.Terms
import QueryWarden.Database.Resolution.Visiting
import QueryWarden.Database.Rows
import QueryWarden.Database.Script
import QueryWarden.Database.Session
import QueryWarden.Database.Storage
import QueryWarden.Database.Storage.Image
import QueryWarden.Database.Storage.Layout
import QueryWarden.Database.Storage.Record
import QueryWarden.Database.Surroundings
import QueryWarden.Database.Token
import QueryWarden.Database.Tree
import QueryWarden.Database.Value
import QueryWarden.Failure
import QueryWarden.Files.Path
import QueryWarden.Files.Tree
import QueryWarden.Generator.Candidate
import QueryWarden.Generator.Chat
import QueryWarden.Guard.Inspection
import QueryWarden.Guard.Verdict
import QueryWarden.Json.Basic
import QueryWarden.Json.Fault
import QueryWarden.Json.Node
import QueryWarden.Json.Printer
import QueryWarden.Json.Scalar
import QueryWarden.Main
import QueryWarden.Mcp.Message
import QueryWarden.Mcp.Session
import QueryWarden.Mcp.Tools
import QueryWarden.Pipeline.Collaborators
import QueryWarden.Pipeline.Run
import QueryWarden.Pipeline.Scenario
import QueryWarden.Pipeline.Service
import QueryWarden.Pipeline.Stage
import QueryWarden.Proofs.Cache.Erasure
import QueryWarden.Proofs.Cache.History
import QueryWarden.Proofs.Cache.Invalidation
import QueryWarden.Proofs.Cache.Lifetimes
import QueryWarden.Proofs.Cache.Lock
import QueryWarden.Proofs.Cache.Serving
import QueryWarden.Proofs.Cache.SingleFlight
import QueryWarden.Proofs.Cache.Steps
import QueryWarden.Proofs.Cli.Documents
import QueryWarden.Proofs.Cli.Printing
import QueryWarden.Proofs.Config.Given
import QueryWarden.Proofs.Config.Layering
import QueryWarden.Proofs.Config.Merging
import QueryWarden.Proofs.Config.Overlay
import QueryWarden.Proofs.Config.Saving
import QueryWarden.Proofs.Database.Engine
import QueryWarden.Proofs.Database.Keeping
import QueryWarden.Proofs.Database.Lasting
import QueryWarden.Proofs.Database.Layout
import QueryWarden.Proofs.Database.LayoutPlans
import QueryWarden.Proofs.Database.Names
import QueryWarden.Proofs.Database.RowLimit
import QueryWarden.Proofs.Database.Untouched
import QueryWarden.Proofs.Fallible
import QueryWarden.Proofs.Files.Writing
import QueryWarden.Proofs.Generator.Cleaning
import QueryWarden.Proofs.Generator.Requests
import QueryWarden.Proofs.Guard.Acceptance
import QueryWarden.Proofs.Guard.FalseAlarms
import QueryWarden.Proofs.Guard.HiddenAliases
import QueryWarden.Proofs.Guard.InertText
import QueryWarden.Proofs.Guard.Renaming
import QueryWarden.Proofs.Guard.SingleStatement
import QueryWarden.Proofs.Guard.WriteForms
import QueryWarden.Proofs.Json.Members
import QueryWarden.Proofs.Json.Numbers
import QueryWarden.Proofs.Json.OneLine
import QueryWarden.Proofs.Json.Ordered
import QueryWarden.Proofs.Json.ReadBack
import QueryWarden.Proofs.Json.Scalars
import QueryWarden.Proofs.Mcp.Answers
import QueryWarden.Proofs.Mcp.Continuation
import QueryWarden.Proofs.Mcp.Endurance
import QueryWarden.Proofs.Mcp.Notifications
import QueryWarden.Proofs.Mcp.Serving
import QueryWarden.Proofs.Mcp.ToolResults
import QueryWarden.Proofs.Pipeline.Alarm
import QueryWarden.Proofs.Pipeline.Arrival
import QueryWarden.Proofs.Pipeline.Attendance
import QueryWarden.Proofs.Pipeline.Clearance
import QueryWarden.Proofs.Pipeline.Completion
import QueryWarden.Proofs.Pipeline.Discretion
import QueryWarden.Proofs.Pipeline.Handling
import QueryWarden.Proofs.Pipeline.InService
import QueryWarden.Proofs.Pipeline.Liveness
import QueryWarden.Proofs.Pipeline.Lock
import QueryWarden.Proofs.Pipeline.Moves
import QueryWarden.Proofs.Pipeline.Outcomes
import QueryWarden.Proofs.Pipeline.Sharing
import QueryWarden.Proofs.Pipeline.Stages
import QueryWarden.Proofs.Pipeline.TimeLimit
import QueryWarden.Proofs.ResultSet
import QueryWarden.Proofs.Scenarios
import QueryWarden.Proofs.Schema.Prompt
import QueryWarden.Proofs.Sql.Bodies
import QueryWarden.Proofs.Sql.Lexemes
import QueryWarden.Proofs.Sql.OneQuery
import QueryWarden.Proofs.Sql.Passing
import QueryWarden.Proofs.Sql.PlainSelect
import QueryWarden.Proofs.Sql.Scanning
import QueryWarden.Proofs.Sql.Tails
import QueryWarden.Proofs.Sql.Unread
import QueryWarden.Proofs.Text.Base64
import QueryWarden.Proofs.Text.Blank
import QueryWarden.Proofs.Text.Separated
import QueryWarden.Proofs.Text.Utf8
import QueryWarden.Proofs.Wire.Calendar
import QueryWarden.Proofs.Wire.Instants
import QueryWarden.Proofs.Wire.Reading
import QueryWarden.Proofs.Wire.Sound
import QueryWarden.Proofs.Wire.Types
import QueryWarden.Proofs.Wire.Written
import QueryWarden.Real.Reading
import QueryWarden.Real.Shortest
import QueryWarden.Response
import QueryWarden.ResultSet
import QueryWarden.Schema.Basic
import QueryWarden.Sql.Dialect
import QueryWarden.Sql.Grammar.Access
import QueryWarden.Sql.Grammar.Alteration
import QueryWarden.Sql.Grammar.Basic
import QueryWarden.Sql.Grammar.Call
import QueryWarden.Sql.Grammar.Change
import QueryWarden.Sql.Grammar.Column
import QueryWarden.Sql.Grammar.Definition
import QueryWarden.Sql.Grammar.Name
import QueryWarden.Sql.Grammar.Operand
import QueryWarden.Sql.Grammar.Operation
import QueryWarden.Sql.Grammar.Precedence
import QueryWarden.Sql.Grammar.Query
import QueryWarden.Sql.Grammar.Removal
import QueryWarden.Sql.Grammar.Select
import QueryWarden.Sql.Grammar.Session
import QueryWarden.Sql.Grammar.Table
import QueryWarden.Sql.Grammar.Type
import QueryWarden.Sql.Grammar.Upkeep
import QueryWarden.Sql.Keyword
import QueryWarden.Sql.Lexicon
import QueryWarden.Sql.Parser
import QueryWarden.Sql.Phrase
import QueryWarden.Sql.Quotation
import QueryWarden.Sql.Rule
import QueryWarden.Sql.Script
import QueryWarden.Sql.Statement
import QueryWarden.Sql.Token
import QueryWarden.Sql.Tokens
import QueryWarden.Sql.Tree
import QueryWarden.Text.Base64
import QueryWarden.Text.Blank
import QueryWarden.Text.Digit
import QueryWarden.Text.Letter
import QueryWarden.Text.Quoted
import QueryWarden.Text.Utf8
import QueryWarden.Url.Basic
import QueryWarden.Url.Host
import QueryWarden.Wire.Instant
import QueryWarden.Wire.Shape
