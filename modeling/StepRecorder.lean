import StepRecorder.Action
import StepRecorder.Action.Json
import StepRecorder.CommandLine
import StepRecorder.CommandLine.Arguments
import StepRecorder.CommandLine.Report
import StepRecorder.Config
import StepRecorder.Config.Load
import StepRecorder.Config.Yaml
import StepRecorder.Correlation
import StepRecorder.Event
import StepRecorder.Event.Json
import StepRecorder.Event.Pattern
import StepRecorder.Event.Recognition
import StepRecorder.Failure
import StepRecorder.Files.Disk
import StepRecorder.Files.Operation
import StepRecorder.Files.Path
import StepRecorder.Files.Reading
import StepRecorder.Files.Replacement
import StepRecorder.Files.SystemError
import StepRecorder.Files.Tree
import StepRecorder.Follower
import StepRecorder.Http
import StepRecorder.Http.Body
import StepRecorder.Http.Head
import StepRecorder.Json.Bytes
import StepRecorder.Json.Field
import StepRecorder.Json.Literal
import StepRecorder.Json.Number
import StepRecorder.Json.Reader
import StepRecorder.Json.Tagged
import StepRecorder.Json.Value
import StepRecorder.Log
import StepRecorder.Main
import StepRecorder.Naming
import StepRecorder.Naming.Choose
import StepRecorder.Naming.Fallback
import StepRecorder.Naming.Role
import StepRecorder.Notice
import StepRecorder.Oracle
import StepRecorder.Oracle.Client
import StepRecorder.Oracle.Host
import StepRecorder.Oracle.Request
import StepRecorder.Oracle.Response
import StepRecorder.Oracle.Url
import StepRecorder.Oracle.Web
import StepRecorder.Ordered
import StepRecorder.Recording
import StepRecorder.Registry
import StepRecorder.Registry.Json
import StepRecorder.Script
import StepRecorder.Script.Check
import StepRecorder.Script.Check.Files
import StepRecorder.Script.Json
import StepRecorder.Sink
import StepRecorder.Sink.Artifacts
import StepRecorder.Sink.Memory
import StepRecorder.Text.Basic
import StepRecorder.Text.Blank
import StepRecorder.Text.Control
import StepRecorder.Text.Digit
import StepRecorder.Text.Line
import StepRecorder.Text.Numeral
import StepRecorder.Text.Octet
import StepRecorder.Text.Printable
import StepRecorder.Text.Quoted
import StepRecorder.Text.Utf16
import StepRecorder.Text.Utf8
import StepRecorder.Yaml.Cursor
import StepRecorder.Yaml.Node
import StepRecorder.Yaml.Node.Parse
import StepRecorder.Yaml.Record
import StepRecorder.Yaml.Scalar.Block
import StepRecorder.Yaml.Scalar.Fold
import StepRecorder.Yaml.Scalar.Plain
import StepRecorder.Yaml.Scalar.Quoted
import StepRecorder.Yaml.Tag
import StepRecorder.Yaml.Token
import StepRecorder.Yaml.Token.Scan
import StepRecorder.Proofs.Follower
import StepRecorder.Proofs.Text.Utf8
import StepRecorder.Proofs.Files.Growth
import StepRecorder.Proofs.Follower.Session
import StepRecorder.Proofs.Correlation.Run
import StepRecorder.Proofs.Correlation.History
import StepRecorder.Proofs.Files.Walk
import StepRecorder.Proofs.Files.Sound
import StepRecorder.Proofs.Files.Spares
import StepRecorder.Proofs.Artifacts
import StepRecorder.Proofs.Files.Replacement
import StepRecorder.Proofs.Files.Extends
import StepRecorder.Proofs.Recording
import StepRecorder.Proofs.Recording.Replay
import StepRecorder.Proofs.Recording.Trace
import StepRecorder.Proofs.Json.Spelling
import StepRecorder.Proofs.Json.Number
import StepRecorder.Proofs.Json.Object
import StepRecorder.Proofs.Json.Field
import StepRecorder.Proofs.Json.Edit
import StepRecorder.Proofs.Json.RoundTrip
import StepRecorder.Proofs.Json.Render
import StepRecorder.Proofs.Oracle.Response
import StepRecorder.Proofs.Oracle.Web
import StepRecorder.Proofs.Oracle.Client
import StepRecorder.Proofs.Oracle.Request
import StepRecorder.Proofs.Ordered
import StepRecorder.Proofs.Registry.Json
import StepRecorder.Proofs.Text.Blank
import StepRecorder.Proofs.Text.Control
import StepRecorder.Proofs.Text.Escape
import StepRecorder.Proofs.Text.Line
import StepRecorder.Proofs.Naming
import StepRecorder.Proofs.Script
import StepRecorder.Proofs.Correlation.Named
import StepRecorder.Proofs.Event
import StepRecorder.Proofs.Recording.Check
import StepRecorder.Proofs.Recording.Summary
import StepRecorder.Proofs.Registry.Candidate
import StepRecorder.Proofs.Registry.Permanence
import StepRecorder.Proofs.Registry.Stability
import StepRecorder.Proofs.Registry.Overwriting
import StepRecorder.Proofs.Correlation.Acceptable
import StepRecorder.Proofs.Registry.Search
import StepRecorder.Proofs.Correlation.Numbering
import StepRecorder.Proofs.Script.ReadBack
import StepRecorder.Proofs.Event.Literal
import StepRecorder.Proofs.Text.Regex
import StepRecorder.Proofs.Event.Expression
import StepRecorder.Proofs.Event.Classification
import StepRecorder.Proofs.Event.Payload
import StepRecorder.Proofs.Correlation.Refused
import StepRecorder.Proofs.Artifacts.Snapshot
import StepRecorder.Proofs.Artifacts.AllOrNothing
import StepRecorder.Proofs.Correlation.Independence
import StepRecorder.Proofs.Correlation.Policy
import StepRecorder.Proofs.Correlation.Questions
import StepRecorder.Proofs.Script.Grammar
import StepRecorder.Proofs.CommandLine.Configuration
import StepRecorder.Proofs.Artifacts.Interleaving
import StepRecorder.Proofs.Script.Composition
import StepRecorder.Proofs.Script.Reference
import StepRecorder.Proofs.Naming.Attribute
import StepRecorder.Proofs.Naming.Renaming
