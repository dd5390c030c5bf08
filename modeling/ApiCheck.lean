import ApiCheck.Check
import ApiCheck.Config
import ApiCheck.Config.Document
import ApiCheck.Context
import ApiCheck.Dataset
import ApiCheck.Error
import ApiCheck.Fields
import ApiCheck.Hook
import ApiCheck.Json.Basic
import ApiCheck.Json.Numeral
import ApiCheck.Json.Parser
import ApiCheck.Json.Printer
import ApiCheck.Json.Record
import ApiCheck.Json.Token
import ApiCheck.Lifecycle
import ApiCheck.Number.Double
import ApiCheck.Number.Reading
import ApiCheck.Number.Shortest
import ApiCheck.Operand
import ApiCheck.Pattern
import ApiCheck.Pattern.Class
import ApiCheck.Pattern.Escape
import ApiCheck.Pattern.Parser
import ApiCheck.Pattern.Regex
import ApiCheck.Pattern.Scan
import ApiCheck.Pattern.Size
import ApiCheck.Report
import ApiCheck.Response
import ApiCheck.Response.Path
import ApiCheck.Run
import ApiCheck.Scenario
import ApiCheck.Scenario.Identifier
import ApiCheck.Step
import ApiCheck.Step.Catalog
import ApiCheck.Step.Execution
import ApiCheck.Step.Expression
import ApiCheck.Table
import ApiCheck.Template
import ApiCheck.Text.Blank
import ApiCheck.Text.Digit
import ApiCheck.Text.Hex
import ApiCheck.Text.Units
import ApiCheck.Text.Upper
import ApiCheck.Time.Calendar
import ApiCheck.Time.Instant
import ApiCheck.Time.Layout
import ApiCheck.Time.Moment
import ApiCheck.Time.Timestamp
import ApiCheck.Unicode.Category
import ApiCheck.Unicode.Folding
import ApiCheck.Unicode.Property
import ApiCheck.Unicode.Query
import ApiCheck.Unicode.Ranges
import ApiCheck.Unicode.Script
import ApiCheck.Yaml.Cursor
import ApiCheck.Yaml.Node
import ApiCheck.Yaml.Scalar
import ApiCheck.Yaml.Token
import ApiCheck.Proofs.Run.Report
import ApiCheck.Proofs.Step.Execution
import ApiCheck.Proofs.Step.NoResponse
import ApiCheck.Proofs.Hook
import ApiCheck.Proofs.Lifecycle
import ApiCheck.Proofs.Lifecycle.Tags
import ApiCheck.Proofs.Run.Skipping
import ApiCheck.Proofs.Run.Isolation
import ApiCheck.Proofs.Text.Blank
import ApiCheck.Proofs.Json
import ApiCheck.Proofs.Number.Reading
import ApiCheck.Proofs.Number.Rounding
import ApiCheck.Proofs.Number.Shortest
import ApiCheck.Proofs.Number.Value
import ApiCheck.Proofs.Number.Nearest
import ApiCheck.Proofs.Number.Overflow
import ApiCheck.Proofs.Step.Expression
import ApiCheck.Proofs.Step.Catalog
import ApiCheck.Proofs.Step.Wording
import ApiCheck.Proofs.Step.Json
import ApiCheck.Proofs.Response.Route
import ApiCheck.Proofs.Response.Fault
import ApiCheck.Proofs.Response.Wildcard
import ApiCheck.Proofs.Template
import ApiCheck.Proofs.Dataset
import ApiCheck.Proofs.Dataset.Seeding
import ApiCheck.Proofs.Operand
import ApiCheck.Proofs.Operand.Equality
import ApiCheck.Proofs.Operand.Spelling
import ApiCheck.Proofs.Step.Capture
import ApiCheck.Proofs.Lifecycle.Preparation
import ApiCheck.Proofs.Template.Scan
import ApiCheck.Proofs.Template.Render
import ApiCheck.Proofs.Number.Integer
import ApiCheck.Proofs.Step.Number
import ApiCheck.Proofs.Step.Length
import ApiCheck.Proofs.Response.Grammar
import ApiCheck.Proofs.Step.Outcome
import ApiCheck.Proofs.Time.Instant
import ApiCheck.Proofs.Time.Timestamp
import ApiCheck.Proofs.Step.Now
import ApiCheck.Proofs.Response.Header
import ApiCheck.Proofs.Step.Header
import ApiCheck.Proofs.Step.Keyword
import ApiCheck.Proofs.Step.Lead
import ApiCheck.Proofs.Step.Pattern
import ApiCheck.Proofs.Run.Configuration
