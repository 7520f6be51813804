import RequestKeys.CommandLine
import RequestKeys.Config.Environment
import RequestKeys.Config.Layer
import RequestKeys.Config.Load
import RequestKeys.Config.Settings
import RequestKeys.Config.SettingsJson
import RequestKeys.Config.Value
import RequestKeys.Flow.Batch
import RequestKeys.Flow.Channel
import RequestKeys.Flow.Feed
import RequestKeys.Flow.Pipeline
import RequestKeys.Flow.Sink
import RequestKeys.Flow.Stage
import RequestKeys.Json.Fault
import RequestKeys.Json.Node
import RequestKeys.Json.Numeral
import RequestKeys.Json.Value
import RequestKeys.Main
import RequestKeys.Metrics.Endpoint
import RequestKeys.Metrics.Histogram
import RequestKeys.Number.Nearest
import RequestKeys.Number.Shortest
import RequestKeys.Number.Written
import RequestKeys.Path.Address
import RequestKeys.Path.Clean
import RequestKeys.Path.Rule
import RequestKeys.Path.Sanitizer
import RequestKeys.Path.Segment
import RequestKeys.Pattern.Basic
import RequestKeys.Pattern.Engine
import RequestKeys.Pattern.Form
import RequestKeys.Pattern.Meaning
import RequestKeys.Pattern.Occurrence
import RequestKeys.Pattern.Reader
import RequestKeys.Pattern.Regex
import RequestKeys.Pattern.Size
import RequestKeys.Proofs.CommandLine
import RequestKeys.Proofs.Config.Assignment
import RequestKeys.Proofs.Config.Compiled
import RequestKeys.Proofs.Config.Field
import RequestKeys.Proofs.Config.Layers
import RequestKeys.Proofs.Config.Members
import RequestKeys.Proofs.Config.Readers
import RequestKeys.Proofs.Config.Variable
import RequestKeys.Proofs.Flow.Account
import RequestKeys.Proofs.Flow.Backpressure
import RequestKeys.Proofs.Flow.Batch
import RequestKeys.Proofs.Flow.Delivery
import RequestKeys.Proofs.Flow.Framing
import RequestKeys.Proofs.Flow.Intake
import RequestKeys.Proofs.Flow.Isolation
import RequestKeys.Proofs.Flow.Journal
import RequestKeys.Proofs.Flow.Lifecycle
import RequestKeys.Proofs.Flow.LineEndings
import RequestKeys.Proofs.Flow.Moves
import RequestKeys.Proofs.Flow.Pipeline
import RequestKeys.Proofs.Flow.Sink
import RequestKeys.Proofs.Flow.Station
import RequestKeys.Proofs.Flow.Termination
import RequestKeys.Proofs.Flow.Work
import RequestKeys.Proofs.Json.Written
import RequestKeys.Proofs.Number.Bits
import RequestKeys.Proofs.Number.Literal
import RequestKeys.Proofs.Number.Rounding
import RequestKeys.Proofs.Number.Shortest
import RequestKeys.Proofs.Number.Written
import RequestKeys.Proofs.Path.Characters
import RequestKeys.Proofs.Path.Collision
import RequestKeys.Proofs.Path.Exclusion
import RequestKeys.Proofs.Path.Interchange
import RequestKeys.Proofs.Path.Normal
import RequestKeys.Proofs.Path.Rerouting
import RequestKeys.Proofs.Path.Route
import RequestKeys.Proofs.Path.Sanitized
import RequestKeys.Proofs.Path.Walk
import RequestKeys.Proofs.Request.EventJson
import RequestKeys.Proofs.Request.Grammar
import RequestKeys.Proofs.Request.Key
import RequestKeys.Proofs.Request.Line
import RequestKeys.Proofs.Request.Query
import RequestKeys.Proofs.Request.Selection
import RequestKeys.Proofs.Request.Target
import RequestKeys.Proofs.Text.Digits
import RequestKeys.Proofs.Text.Encoded
import RequestKeys.Proofs.Text.Percent
import RequestKeys.Proofs.Text.Split
import RequestKeys.Proofs.Text.Utf8
import RequestKeys.Request.Event
import RequestKeys.Request.EventJson
import RequestKeys.Request.Key
import RequestKeys.Request.Line
import RequestKeys.Request.Target
import RequestKeys.Text.Blank
import RequestKeys.Text.Hex
import RequestKeys.Text.Percent
import RequestKeys.Text.Quoted
import RequestKeys.Text.Split
import RequestKeys.Text.Utf8
import RequestKeys.Toml.Document
import RequestKeys.Toml.Reader
import RequestKeys.Toml.Scalar
import RequestKeys.Unicode.Category
import RequestKeys.Unicode.Folding
import RequestKeys.Unicode.Property
import RequestKeys.Unicode.Ranges
import RequestKeys.Unicode.Script
import RequestKeys.Yaml.Cursor
import RequestKeys.Yaml.Node
import RequestKeys.Yaml.Reader
import RequestKeys.Yaml.Scalar
