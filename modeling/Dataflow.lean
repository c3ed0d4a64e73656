import Dataflow.Channel.Broker
import Dataflow.Channel.Error
import Dataflow.Channel.Glob
import Dataflow.Channel.Message
import Dataflow.Channel.Pattern
import Dataflow.CommandLine
import Dataflow.Config.Error
import Dataflow.Config.FileTree
import Dataflow.Config.Loader
import Dataflow.Config.Node
import Dataflow.Config.Path
import Dataflow.Config.Settings
import Dataflow.Config.SettingsFile
import Dataflow.Config.Tree
import Dataflow.Context
import Dataflow.Context.Gate
import Dataflow.Data
import Dataflow.Data.Tagged
import Dataflow.Decimal.Binary
import Dataflow.Decimal.Reader
import Dataflow.Decimal.Shortest
import Dataflow.Decimal.Text
import Dataflow.Duration
import Dataflow.Job.Cluster
import Dataflow.Job.Descriptor
import Dataflow.Job.Error
import Dataflow.Job.Executor
import Dataflow.Job.Future
import Dataflow.Job.Id
import Dataflow.Job.Orchestrator
import Dataflow.Job.Step
import Dataflow.Job.Waiting
import Dataflow.Job.Worker
import Dataflow.Json
import Dataflow.Json.Reader
import Dataflow.Json.Serializer
import Dataflow.Json.Writer
import Dataflow.KeyMap
import Dataflow.Log
import Dataflow.Log.Job
import Dataflow.Log.Pipeline
import Dataflow.Log.Transport
import Dataflow.Main
import Dataflow.Outcome
import Dataflow.Parameters
import Dataflow.Pipeline
import Dataflow.Pipeline.Error
import Dataflow.Pipeline.Inspection
import Dataflow.Pipeline.Node
import Dataflow.Pipeline.Run
import Dataflow.Pipeline.Topology
import Dataflow.Processor
import Dataflow.Processor.Arithmetic
import Dataflow.Processor.Builtin
import Dataflow.Processor.Error
import Dataflow.Processor.Faulty
import Dataflow.Processor.Input
import Dataflow.Processor.Reporting
import Dataflow.Processor.Scripted
import Dataflow.Processor.Shorthand
import Dataflow.Processor.Source
import Dataflow.Processor.Template
import Dataflow.Processor.Wording
import Dataflow.Proofs.Channel.Name
import Dataflow.Proofs.Channel.Wildcard
import Dataflow.Proofs.Channel.Order
import Dataflow.Proofs.Channel.Spool
import Dataflow.Reference
import Dataflow.Registry
import Dataflow.Text.Case
import Dataflow.Text.CaseTable
import Dataflow.Text.Printable
import Dataflow.Text.Quoted
import Dataflow.Text.Ranges
import Dataflow.Text.Split
import Dataflow.Toml.Document
import Dataflow.Toml.Moment
import Dataflow.Toml.Number
import Dataflow.Toml.Settings
import Dataflow.Toml.Table
import Dataflow.Toml.Text
import Dataflow.Yaml.Cursor
import Dataflow.Yaml.Document
import Dataflow.Yaml.Fault
import Dataflow.Yaml.Scalar
import Dataflow.Yaml.ScalarText
import Dataflow.Yaml.Settings
import Dataflow.Yaml.Tag
import Dataflow.Yaml.Token
import Dataflow.Yaml.Token.Lexer
import Dataflow.Yaml.Value
import Dataflow.Proofs.Context.Touch
import Dataflow.Proofs.Context.Record
import Dataflow.Proofs.Data.Canonical
import Dataflow.Proofs.Data.Tagged
import Dataflow.Proofs.Pipeline.Passage
import Dataflow.Proofs.Pipeline.Provenance
import Dataflow.Proofs.Pipeline.Declared
import Dataflow.Proofs.Pipeline.Resolution
import Dataflow.Proofs.Pipeline.Supply
import Dataflow.Proofs.Processor.Shorthand
import Dataflow.Proofs.Processor.Template
import Dataflow.Proofs.Processor.Reference
import Dataflow.Proofs.Processor.Builtin
import Dataflow.Proofs.Config.Entry
import Dataflow.Proofs.Config.Tree
import Dataflow.Proofs.Config.Specification
import Dataflow.Proofs.Job.Name
import Dataflow.Proofs.Job.Wire
import Dataflow.Proofs.Job.Ledger
import Dataflow.Proofs.Job.Frame
import Dataflow.Proofs.Job.Intake
import Dataflow.Proofs.Job.Delivery
import Dataflow.Proofs.Job.History
import Dataflow.Proofs.Job.Correlation
import Dataflow.Proofs.Job.Conservation
import Dataflow.Proofs.Pipeline.Deletion
import Dataflow.Proofs.Text.ByteOrder
import Dataflow.Proofs.Pipeline.Adjacency
import Dataflow.Proofs.Pipeline.Reliable
import Dataflow.Proofs.Pipeline.Requirement
import Dataflow.Proofs.Pipeline.Foresight
import Dataflow.Proofs.Pipeline.Typing
import Dataflow.Proofs.Pipeline.Composition
import Dataflow.Proofs.Context.Agreement
import Dataflow.Proofs.Pipeline.Irrelevance
import Dataflow.Proofs.Pipeline.Accumulation
import Dataflow.Proofs.Pipeline.Abort
import Dataflow.Proofs.Job.Collection
import Dataflow.Proofs.Pipeline.Construction
import Dataflow.Proofs.Pipeline.Footprint
import Dataflow.Proofs.Pipeline.Readers
import Dataflow.Proofs.Pipeline.Report
import Dataflow.Proofs.Pipeline.Logging
import Dataflow.Proofs.Processor.Computation
import Dataflow.Proofs.Pipeline.Validity
import Dataflow.Proofs.Job.Backlog
import Dataflow.Proofs.Job.Service
import Dataflow.Proofs.Job.Routing
import Dataflow.Proofs.Job.Tenure
