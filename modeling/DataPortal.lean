import DataPortal.Calendar.Date
import DataPortal.Calendar.DateTime
import DataPortal.Client.Basic
import DataPortal.Client.Changes
import DataPortal.Client.Credentials
import DataPortal.Client.Namespaces
import DataPortal.Client.Paging
import DataPortal.Client.Sampling
import DataPortal.Client.Session
import DataPortal.Client.Summaries
import DataPortal.Client.Walk
import DataPortal.Config.Basic
import DataPortal.Config.Settings
import DataPortal.Failure.Basic
import DataPortal.Failure.Kind
import DataPortal.FilterText.Basic
import DataPortal.FilterText.DateText
import DataPortal.FilterText.Fields
import DataPortal.FilterText.Literal
import DataPortal.Json.Printer
import DataPortal.Json.Reader
import DataPortal.Json.Token
import DataPortal.Number.Amount
import DataPortal.Number.Binary64
import DataPortal.Number.Decimal
import DataPortal.Number.DecimalPower
import DataPortal.Number.Numeral
import DataPortal.Number.PowerOfTwo
import DataPortal.Number.Precision
import DataPortal.Number.Rounding
import DataPortal.Number.Shortest
import DataPortal.Query.Basic
import DataPortal.Query.Filter
import DataPortal.Query.Inspect
import DataPortal.Query.Token
import DataPortal.Record.Change
import DataPortal.Record.Lenient
import DataPortal.Record.Timestamp
import DataPortal.Replay
import DataPortal.Schema.Classification
import DataPortal.Schema.FieldType
import DataPortal.Schema.Inference
import DataPortal.Service.Response
import DataPortal.Service.Status
import DataPortal.Text.Base64
import DataPortal.Text.Blank
import DataPortal.Text.ByteOrder
import DataPortal.Text.CodePoint
import DataPortal.Text.Digit
import DataPortal.Text.Folded
import DataPortal.Text.Percent
import DataPortal.Text.Printable
import DataPortal.Text.Template
import DataPortal.Text.Utf8
import DataPortal.Text.WordCharacter
import DataPortal.Throttle
import DataPortal.Value.Basic
import DataPortal.Value.Display
import DataPortal.Value.Key
import DataPortal.Value.Multiple
import DataPortal.Value.Order
import DataPortal.Value.Quantity
import DataPortal.Yaml.BlockText
import DataPortal.Yaml.Cursor
import DataPortal.Yaml.Document
import DataPortal.Yaml.Graph
import DataPortal.Yaml.Name
import DataPortal.Yaml.Part
import DataPortal.Yaml.PlainText
import DataPortal.Yaml.QuotedText
import DataPortal.Yaml.Reader
import DataPortal.Yaml.Scalar
import DataPortal.Yaml.Tag
import DataPortal.Yaml.Timestamp
import DataPortal.Yaml.Token
import DataPortal.Proofs.Wire.Grammar
import DataPortal.Proofs.Wire.Spelling
import DataPortal.Proofs.Wire.Reassociation
import DataPortal.Proofs.Query.FilterReading
import DataPortal.Proofs.Query.Reading
import DataPortal.Proofs.Wire.Conjunction
import DataPortal.Proofs.FilterText.Literal
import DataPortal.Proofs.FilterText.Arguments
import DataPortal.Proofs.FilterText.Spelling
import DataPortal.Proofs.Client.Backoff
import DataPortal.Proofs.Client.Pulls
import DataPortal.Proofs.Client.Action
import DataPortal.Proofs.Client.Retrying
import DataPortal.Proofs.Text.Utf8
import DataPortal.Proofs.Text.Percent
import DataPortal.Proofs.Query.Quoting
import DataPortal.Proofs.Service.Reading
import DataPortal.Proofs.Client.Collecting
import DataPortal.Proofs.Client.Requests
import DataPortal.Proofs.Client.Reaching
import DataPortal.Proofs.Client.ChangePages
import DataPortal.Proofs.Client.ChangeLog
import DataPortal.Proofs.Client.Discovery
import DataPortal.Proofs.Client.Loops
import DataPortal.Proofs.Client.Trace
import DataPortal.Proofs.Client.Refreshing
import DataPortal.Proofs.Client.TokenUse
import DataPortal.Proofs.Client.Streaming
import DataPortal.Proofs.Client.RetryBudget
import DataPortal.Proofs.Throttle.Schedule
import DataPortal.Proofs.Throttle.Callers
import DataPortal.Proofs.Text.Component
import DataPortal.Proofs.Query.Structure
import DataPortal.Proofs.FilterText.Answering
import DataPortal.Proofs.Query.Calls
import DataPortal.Proofs.FilterText.Applying
import DataPortal.Proofs.FilterText.DateText
import DataPortal.Proofs.FilterText.QuotedToken
import DataPortal.Proofs.FilterText.Unquoting
import DataPortal.Proofs.Number.PlainNumber
import DataPortal.Proofs.Number.Powers
import DataPortal.Proofs.Number.Nearest
import DataPortal.Proofs.Number.Neighbourhood
import DataPortal.Proofs.Number.Shortest
import DataPortal.Proofs.Number.NumeralText
import DataPortal.Proofs.Number.ShortestText
import DataPortal.Proofs.Query.NumberToken
import DataPortal.Proofs.Query.TypedNumber
import DataPortal.Proofs.Calendar.DayNumber
import DataPortal.Proofs.Calendar.Instant
import DataPortal.Proofs.Text.Template
import DataPortal.Proofs.Text.Words
import DataPortal.Proofs.FilterText.PlainWord
import DataPortal.Proofs.FilterText.RealDate
import DataPortal.Proofs.Query.InstantToken
import DataPortal.Proofs.Client.FirstRecords
import DataPortal.Proofs.Schema.Fields
import DataPortal.Proofs.Schema.TextForms
import DataPortal.Proofs.Service.ErrorAnswer
import DataPortal.Proofs.Json.Values
import DataPortal.Proofs.Json.Depth
import DataPortal.Proofs.Client.Sampling
import DataPortal.Proofs.Query.PageCursor
import DataPortal.Proofs.Client.Cursors
import DataPortal.Proofs.Config.Sources
import DataPortal.Proofs.Config.Scopes
