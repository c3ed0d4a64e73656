/-
Processors: the units of computation that the nodes of a pipeline bind.

There are seven kinds.  An operation turns data into data, a probe reads data
and yields a value, a context processor edits the context, a source makes data,
a sink consumes data, and the payload variants of the last two work on data and
context together.  Every processor declares its parameters, so that the node
that binds it can decide where each argument comes from.

A processor is a function of its arguments.  What a sink does to the outside is
part of its answer, as a list of emissions.
-/
import Dataflow.Context.Gate
import Dataflow.Log
import Dataflow.Parameters
import Dataflow.Text.Quoted

namespace Dataflow

/-- A declared parameter.  Without a default, the argument must come from the node's configuration
or from the context. -/
structure ParameterSpec where
  name : String
  default? : Option Json
  deriving Inhabited

namespace ParameterSpec

def required (name : String) : ParameterSpec := ⟨name, none⟩

def optional (name : String) (default : Json) : ParameterSpec := ⟨name, some default⟩

def isRequired (spec : ParameterSpec) : Bool := spec.default?.isNone

end ParameterSpec

/-- What a sink sends to the outside. -/
inductive Emission where
  | logged (event : LogEvent)
  /-- A float handed to whoever collects them. -/
  | recorded (value : Float)
  deriving DecidableEq, Inhabited

/-- What a call of a processor may end in. -/
abbrev Answer := Outcome ProcessorError

/-! ## The seven kinds -/

/-- Turns data into data. -/
structure Operation where
  name : String
  parameters : List ParameterSpec := []
  input : DataType
  output : DataType
  process : TypedData → Parameters → Answer TypedData

/-- Reads data and yields a value; the data passes through. -/
structure Probe where
  name : String
  parameters : List ParameterSpec := []
  input : DataType
  probe : TypedData → Parameters → Answer Json

/-- Edits the context; the data passes through. -/
structure ContextProcessor where
  name : String
  parameters : List ParameterSpec := []
  /-- Keys read from the context itself, beside the parameters. -/
  requiredKeys : List String := []
  /-- Keys that may be written. -/
  createdKeys : List String := []
  /-- Keys that may be deleted. -/
  suppressedKeys : List String := []
  edit : Parameters → Edit

/-- Makes data from nothing but its arguments. -/
structure Source where
  name : String
  parameters : List ParameterSpec := []
  output : DataType
  produce : Parameters → Answer TypedData

/-- Consumes data; the data passes through. -/
structure Sink where
  name : String
  parameters : List ParameterSpec := []
  input : DataType
  consume : LogFilter → TypedData → Parameters → Answer (List Emission)

/-- Makes data together with context entries. -/
structure PayloadSource where
  name : String
  parameters : List ParameterSpec := []
  output : DataType
  produce : Parameters → Answer Payload

/-- Consumes a whole payload; it passes through. -/
structure PayloadSink where
  name : String
  parameters : List ParameterSpec := []
  input : DataType
  consume : LogFilter → Payload → Parameters → Answer (List Emission)

inductive ProcessorKind where
  | dataOperation
  | dataProbe
  | contextProcessor
  | dataSource
  | dataSink
  | payloadSource
  | payloadSink
  deriving DecidableEq, Repr, Inhabited

namespace ProcessorKind

/-- The name used in descriptions. -/
def name : ProcessorKind → String
  | dataOperation => "DataOperation"
  | dataProbe => "DataProbe"
  | contextProcessor => "ContextProcessor"
  | dataSource => "DataSource"
  | dataSink => "DataSink"
  | payloadSource => "PayloadSource"
  | payloadSink => "PayloadSink"

/-- The name used in serialized values. -/
def tag : ProcessorKind → String
  | dataOperation => "data_operation"
  | dataProbe => "data_probe"
  | contextProcessor => "context_processor"
  | dataSource => "data_source"
  | dataSink => "data_sink"
  | payloadSource => "payload_source"
  | payloadSink => "payload_sink"

/-- Whether a processor of this kind looks at the data it is given.  Only such
processors take part in the type checks. -/
def readsData : ProcessorKind → Bool
  | contextProcessor | dataSource | payloadSource => false
  | _ => true

/-- Whether a processor of this kind replaces the data. -/
def producesData : ProcessorKind → Bool
  | dataOperation | dataSource | payloadSource => true
  | _ => false

end ProcessorKind

inductive Processor where
  | operation (p : Operation)
  | probe (p : Probe)
  | context (p : ContextProcessor)
  | source (p : Source)
  | sink (p : Sink)
  | payloadSource (p : PayloadSource)
  | payloadSink (p : PayloadSink)

namespace Processor

def kind : Processor → ProcessorKind
  | operation _ => .dataOperation
  | probe _ => .dataProbe
  | context _ => .contextProcessor
  | source _ => .dataSource
  | sink _ => .dataSink
  | payloadSource _ => .payloadSource
  | payloadSink _ => .payloadSink

def name : Processor → String
  | operation p => p.name
  | probe p => p.name
  | context p => p.name
  | source p => p.name
  | sink p => p.name
  | payloadSource p => p.name
  | payloadSink p => p.name

def parameters : Processor → List ParameterSpec
  | operation p => p.parameters
  | probe p => p.parameters
  | context p => p.parameters
  | source p => p.parameters
  | sink p => p.parameters
  | payloadSource p => p.parameters
  | payloadSink p => p.parameters

def readsData (p : Processor) : Bool := p.kind.readsData

def producesData (p : Processor) : Bool := p.kind.producesData

/-- The type of data that the processor accepts.  Sources start from nothing, and a context
processor never looks. -/
def inputType : Processor → DataType
  | operation p => p.input
  | probe p => p.input
  | context _ => .any
  | source _ => .empty
  | sink p => p.input
  | payloadSource _ => .empty
  | payloadSink p => p.input

/-- The type of the data behind the processor.  What passes data through has its input type. -/
def outputType : Processor → DataType
  | operation p => p.output
  | source p => p.output
  | payloadSource p => p.output
  | p => p.inputType

/-- The keys that a context processor reads, writes and deletes; none for another kind. -/
def requiredKeys : Processor → List String
  | context p => p.requiredKeys
  | _ => []

def createdKeys : Processor → List String
  | context p => p.createdKeys
  | _ => []

def suppressedKeys : Processor → List String
  | context p => p.suppressedKeys
  | _ => []

def description (p : Processor) : String :=
  "Processor \x7b kind: " ++ p.kind.name ++ ", name: " ++ Text.quoted p.name ++ " \x7d"

/-- Everything a processor declares. -/
def toJson (p : Processor) : Json :=
  let parameter (spec : ParameterSpec) : Json :=
    .obj [("name", .str spec.name), ("required", .bool spec.isRequired),
      ("default", spec.default?.getD .null)]
  let declared : List (String × Json) :=
    [("name", .str p.name), ("kind", .str p.kind.tag), ("reads_data", .bool p.readsData),
      ("parameters", .arr (p.parameters.map parameter)),
      ("input_type", .str p.inputType.tag), ("output_type", .str p.outputType.tag)]
  match p with
  | context p => .obj (declared ++
      [("required_keys", .ofStrings p.requiredKeys), ("created_keys", .ofStrings p.createdKeys),
        ("suppressed_keys", .ofStrings p.suppressedKeys)])
  | _ => .obj declared

end Processor
end Dataflow
