import StageRelay.Bytes
import StageRelay.CommandLine.Commands
import StageRelay.CommandLine.Execute
import StageRelay.CommandLine.Help
import StageRelay.CommandLine.Options
import StageRelay.CommandLine.Report
import StageRelay.CommandLine.RequestArguments
import StageRelay.Condition
import StageRelay.Config.Basic
import StageRelay.Config.Issue
import StageRelay.Config.Source
import StageRelay.Decimal.Binary64
import StageRelay.Decimal.Shortest
import StageRelay.Directive
import StageRelay.Extension
import StageRelay.Failure
import StageRelay.Files.Path
import StageRelay.Files.Tree
import StageRelay.Gateway.Connection
import StageRelay.Gateway.Cors
import StageRelay.Gateway.Dispatch
import StageRelay.Gateway.Inbound
import StageRelay.Gateway.RequestId
import StageRelay.Gateway.Response
import StageRelay.Http.Client
import StageRelay.Http.Credentials
import StageRelay.Http.Field
import StageRelay.Http.Framing
import StageRelay.Http.Host
import StageRelay.Http.HostName
import StageRelay.Http.Outgoing
import StageRelay.Http.Percent
import StageRelay.Http.Punycode
import StageRelay.Http.Redirects
import StageRelay.Http.Target
import StageRelay.Http.Url
import StageRelay.Http.UrlPath
import StageRelay.Identity
import StageRelay.Json.Basic
import StageRelay.Json.Embedded
import StageRelay.Json.Literal
import StageRelay.Json.Numeral
import StageRelay.Json.Parse
import StageRelay.Json.Print
import StageRelay.Main
import StageRelay.Pipeline.Plan
import StageRelay.Pipeline.Replay
import StageRelay.Pipeline.Run
import StageRelay.Pipeline.Service
import StageRelay.Proofs.CommandLine.HeaderArguments
import StageRelay.Proofs.CommandLine.RequestArguments
import StageRelay.Proofs.Config.Sources
import StageRelay.Proofs.Decimal.Range
import StageRelay.Proofs.Files.Appending
import StageRelay.Proofs.Files.Paths
import StageRelay.Proofs.Gateway.Dispatch
import StageRelay.Proofs.Gateway.Headers
import StageRelay.Proofs.Gateway.Origins
import StageRelay.Proofs.Gateway.Responses
import StageRelay.Proofs.Http.Redirects
import StageRelay.Proofs.Json.Composition
import StageRelay.Proofs.Json.Documents
import StageRelay.Proofs.Json.EmbeddedTexts
import StageRelay.Proofs.Json.NumberSizes
import StageRelay.Proofs.Json.NumberTexts
import StageRelay.Proofs.Lists
import StageRelay.Proofs.Routing.DeadRoutes
import StageRelay.Proofs.Routing.DueIssues
import StageRelay.Proofs.Routing.Findings
import StageRelay.Proofs.Routing.FirstMatch
import StageRelay.Proofs.Routing.Judgement
import StageRelay.Proofs.Routing.LetterCase
import StageRelay.Proofs.Routing.Queues
import StageRelay.Proofs.Routing.Registrations
import StageRelay.Proofs.Routing.Registry
import StageRelay.Proofs.Routing.Relevance
import StageRelay.Proofs.Routing.Report
import StageRelay.Proofs.Routing.Selection
import StageRelay.Proofs.Routing.Tables
import StageRelay.Proofs.Run.Bodies
import StageRelay.Proofs.Run.Calls
import StageRelay.Proofs.Run.Cancellation
import StageRelay.Proofs.Run.CleanCheck
import StageRelay.Proofs.Run.Composition
import StageRelay.Proofs.Run.Course
import StageRelay.Proofs.Run.Gate
import StageRelay.Proofs.Run.Limits
import StageRelay.Proofs.Run.Outcome
import StageRelay.Proofs.Run.Planned
import StageRelay.Proofs.Run.Relaxation
import StageRelay.Proofs.Run.Requests
import StageRelay.Proofs.Run.Visit
import StageRelay.Proofs.Schema.ConditionForms
import StageRelay.Proofs.Schema.ConditionSpellings
import StageRelay.Proofs.Schema.Conditions
import StageRelay.Proofs.Schema.MemberOrder
import StageRelay.Proofs.Schema.Reading
import StageRelay.Proofs.Schema.RecordParts
import StageRelay.Proofs.Schema.Records
import StageRelay.Proofs.Schema.Respelling
import StageRelay.Proofs.Schema.RoundTrip
import StageRelay.Proofs.Schema.RoutingDocuments
import StageRelay.Proofs.Schema.RoutingKeys
import StageRelay.Proofs.Schema.Spellings
import StageRelay.Proofs.Services.NumberTypes
import StageRelay.Proofs.Services.Store
import StageRelay.Proofs.Services.Validation
import StageRelay.Proofs.Services.Wrapping
import StageRelay.Proofs.Text.ByteOrder
import StageRelay.Proofs.Text.Cuts
import StageRelay.Proofs.Text.Numerals
import StageRelay.Request
import StageRelay.Route
import StageRelay.RoutingTable
import StageRelay.Schema.Condition
import StageRelay.Schema.Config
import StageRelay.Schema.Error
import StageRelay.Schema.Reader
import StageRelay.Schema.Record
import StageRelay.Schema.Request
import StageRelay.Schema.Written
import StageRelay.Services.Stamp
import StageRelay.Services.Store
import StageRelay.Services.Validation
import StageRelay.SortedMap
import StageRelay.Text.Ascii
import StageRelay.Text.Base64
import StageRelay.Text.Blank
import StageRelay.Text.Digits
import StageRelay.Text.Quoted
import StageRelay.Text.Split
import StageRelay.Text.Unprintable
import StageRelay.Text.Utf8
import StageRelay.Toml.Lexical
import StageRelay.Toml.Parse
import StageRelay.Toml.Tree
import StageRelay.Unicode.CodeTable
import StageRelay.Unicode.Combining
import StageRelay.Unicode.Composition
import StageRelay.Unicode.Direction
import StageRelay.Unicode.Joining
import StageRelay.Unicode.NameForm
import StageRelay.Unicode.Replacement
