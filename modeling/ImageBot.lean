import ImageBot.Command.Image
import ImageBot.Command.Registry
import ImageBot.Decimal.Binary64
import ImageBot.Decimal.Integer
import ImageBot.Decimal.Notation
import ImageBot.Decimal.Reading
import ImageBot.Decimal.Shortest
import ImageBot.Duration
import ImageBot.Error
import ImageBot.Files
import ImageBot.Homeserver
import ImageBot.Http.Client
import ImageBot.Http.Failure
import ImageBot.Http.Network
import ImageBot.Http.Redirect
import ImageBot.Http.Reply
import ImageBot.Http.Request
import ImageBot.Http.Response
import ImageBot.Http.Uri
import ImageBot.Json.Cursor
import ImageBot.Json.Decode
import ImageBot.Json.Fault
import ImageBot.Json.Number
import ImageBot.Json.Parser
import ImageBot.Json.Printer
import ImageBot.Json.Str
import ImageBot.Json.Tree
import ImageBot.Json.Value
import ImageBot.Log
import ImageBot.Main
import ImageBot.Message
import ImageBot.Metrics
import ImageBot.Proofs.Command.Addressing
import ImageBot.Proofs.Command.Execution
import ImageBot.Proofs.Command.Phrase
import ImageBot.Proofs.Command.Registration
import ImageBot.Proofs.Command.Selection
import ImageBot.Proofs.Decimal.Integers
import ImageBot.Proofs.Decimal.Rounding
import ImageBot.Proofs.Decimal.Whole
import ImageBot.Proofs.Homeserver.ContentTypes
import ImageBot.Proofs.Homeserver.Requests
import ImageBot.Proofs.Homeserver.Rooms
import ImageBot.Proofs.Homeserver.Transaction
import ImageBot.Proofs.Homeserver.Uploads
import ImageBot.Proofs.Http.Comparison
import ImageBot.Proofs.Http.Conversation
import ImageBot.Proofs.Http.Headers
import ImageBot.Proofs.Http.Redirect
import ImageBot.Proofs.Http.Refusal
import ImageBot.Proofs.Http.Timeouts
import ImageBot.Proofs.Http.Trail
import ImageBot.Proofs.Json.Decoding
import ImageBot.Proofs.Json.Literals
import ImageBot.Proofs.Json.Numbers
import ImageBot.Proofs.Json.Outline
import ImageBot.Proofs.Json.Places
import ImageBot.Proofs.Json.Reading
import ImageBot.Proofs.Json.Records
import ImageBot.Proofs.Json.Slots
import ImageBot.Proofs.Json.Sorting
import ImageBot.Proofs.Json.Strings
import ImageBot.Proofs.Json.Texts
import ImageBot.Proofs.Message.Pixels
import ImageBot.Proofs.Message.Wire
import ImageBot.Proofs.Metrics.Counting
import ImageBot.Proofs.Metrics.Report
import ImageBot.Proofs.Metrics.Runs
import ImageBot.Proofs.Metrics.Statistics
import ImageBot.Proofs.Relay.Refusals
import ImageBot.Proofs.Relay.Stages
import ImageBot.Proofs.Result
import ImageBot.Proofs.Search.Key
import ImageBot.Proofs.Search.Outcome
import ImageBot.Proofs.Search.Parameters
import ImageBot.Proofs.Search.Tolerance
import ImageBot.Proofs.Search.Totals
import ImageBot.Proofs.Service.Accounts
import ImageBot.Proofs.Service.Comparison
import ImageBot.Proofs.Service.Content
import ImageBot.Proofs.Service.Course
import ImageBot.Proofs.Service.Delivery
import ImageBot.Proofs.Service.Handling
import ImageBot.Proofs.Service.Key
import ImageBot.Proofs.Service.Memory
import ImageBot.Proofs.Service.Token
import ImageBot.Proofs.Settings.Document
import ImageBot.Proofs.Settings.Loading
import ImageBot.Proofs.Settings.Timeouts
import ImageBot.Proofs.Settings.Validation
import ImageBot.Proofs.Text.Phrases
import ImageBot.Proofs.Text.Utf8
import ImageBot.Proofs.Text.Words
import ImageBot.Proofs.Url.Authority
import ImageBot.Proofs.Url.Domain
import ImageBot.Proofs.Url.Endpoint
import ImageBot.Proofs.Url.Form
import ImageBot.Proofs.Url.Locality
import ImageBot.Proofs.Url.Path
import ImageBot.Proofs.Url.Percent
import ImageBot.Proofs.Url.Query
import ImageBot.Proofs.Url.Reading
import ImageBot.Proofs.Url.Rereading
import ImageBot.Proofs.Yaml.Records
import ImageBot.Relay
import ImageBot.Search.Query
import ImageBot.Search.Result
import ImageBot.Service.Address
import ImageBot.Service.Basic
import ImageBot.Service.MediaType
import ImageBot.Service.Router
import ImageBot.Settings.Basic
import ImageBot.Settings.Document
import ImageBot.Settings.Loading
import ImageBot.Settings.Overrides
import ImageBot.Startup
import ImageBot.Text.Base64
import ImageBot.Text.Blank
import ImageBot.Text.Hex
import ImageBot.Text.Shown
import ImageBot.Text.Utf8
import ImageBot.Unicode.Category
import ImageBot.Unicode.Composed
import ImageBot.Unicode.Decomposition
import ImageBot.Unicode.Direction
import ImageBot.Unicode.Hostname
import ImageBot.Unicode.Joining
import ImageBot.Unicode.Table
import ImageBot.Url.Basic
import ImageBot.Url.Domain
import ImageBot.Url.Endpoint
import ImageBot.Url.Fault
import ImageBot.Url.Form
import ImageBot.Url.Host
import ImageBot.Url.Parser
import ImageBot.Url.Percent
import ImageBot.Url.Punycode
import ImageBot.Url.Reference
import ImageBot.Yaml.Atom
import ImageBot.Yaml.Cursor
import ImageBot.Yaml.Decode
import ImageBot.Yaml.Grammar
import ImageBot.Yaml.Layout
import ImageBot.Yaml.Node
import ImageBot.Yaml.Scalar
import ImageBot.Yaml.Tag
import ImageBot.Yaml.Token
