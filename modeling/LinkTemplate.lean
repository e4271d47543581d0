import LinkTemplate.CommandLine
import LinkTemplate.CommandLine.Arguments
import LinkTemplate.CommandLine.Transcript
import LinkTemplate.Encoder
import LinkTemplate.Error
import LinkTemplate.Expression
import LinkTemplate.Expression.Buffer
import LinkTemplate.Expression.Expand
import LinkTemplate.Json
import LinkTemplate.Json.Read
import LinkTemplate.Main
import LinkTemplate.Main.Url
import LinkTemplate.Main.Url.Domain
import LinkTemplate.Main.Url.Domain.Mapping
import LinkTemplate.Number
import LinkTemplate.Operator
import LinkTemplate.Package
import LinkTemplate.Params
import LinkTemplate.Params.Document
import LinkTemplate.Proofs.CommandLine.Assignments
import LinkTemplate.Proofs.CommandLine.Check
import LinkTemplate.Proofs.CommandLine.Failures
import LinkTemplate.Proofs.CommandLine.Output
import LinkTemplate.Proofs.CommandLine.Runs
import LinkTemplate.Proofs.Encoder.Percent
import LinkTemplate.Proofs.Expression.Appending
import LinkTemplate.Proofs.Expression.Residual
import LinkTemplate.Proofs.Expression.RoundTrip
import LinkTemplate.Proofs.Expression.Runs
import LinkTemplate.Proofs.Expression.WrittenForm
import LinkTemplate.Proofs.Json.Grammar
import LinkTemplate.Proofs.Json.Literal
import LinkTemplate.Proofs.Json.Margin
import LinkTemplate.Proofs.Json.Reading
import LinkTemplate.Proofs.Json.Scale
import LinkTemplate.Proofs.Json.Writing
import LinkTemplate.Proofs.Number.Range
import LinkTemplate.Proofs.Number.Shortest
import LinkTemplate.Proofs.Params.Document
import LinkTemplate.Proofs.Params.History
import LinkTemplate.Proofs.Params.Integers
import LinkTemplate.Proofs.Params.Partition
import LinkTemplate.Proofs.Params.Written
import LinkTemplate.Proofs.Results
import LinkTemplate.Proofs.Session.Calls
import LinkTemplate.Proofs.Session.Links
import LinkTemplate.Proofs.Session.Readings
import LinkTemplate.Proofs.Staging.Alike
import LinkTemplate.Proofs.Staging.Extremes
import LinkTemplate.Proofs.Staging.Growth
import LinkTemplate.Proofs.Staging.OneShot
import LinkTemplate.Proofs.Staging.OpenNames
import LinkTemplate.Proofs.Staging.Reread
import LinkTemplate.Proofs.Staging.Stage
import LinkTemplate.Proofs.Template.Concatenation
import LinkTemplate.Proofs.Template.Dependencies
import LinkTemplate.Proofs.Template.Encoding
import LinkTemplate.Proofs.Template.Grammar
import LinkTemplate.Proofs.Template.Inert
import LinkTemplate.Proofs.Template.Mismatch
import LinkTemplate.Proofs.Template.OperatorTable
import LinkTemplate.Proofs.Template.Residual
import LinkTemplate.Proofs.Template.Scan
import LinkTemplate.Proofs.Template.Segmentation
import LinkTemplate.Proofs.Template.Spans
import LinkTemplate.Proofs.Text
import LinkTemplate.Proofs.Yaml.Flow
import LinkTemplate.Proofs.Yaml.Fuel
import LinkTemplate.Proofs.Yaml.Lexer
import LinkTemplate.Proofs.Yaml.Nodes
import LinkTemplate.Proofs.Yaml.Remainder
import LinkTemplate.Session
import LinkTemplate.Template
import LinkTemplate.Text
import LinkTemplate.TextMap
import LinkTemplate.Yaml.Document
import LinkTemplate.Yaml.Lexer
import LinkTemplate.Yaml.Lexical
import LinkTemplate.Yaml.Meaning
import LinkTemplate.Yaml.Scalar
import LinkTemplate.Yaml.Token
