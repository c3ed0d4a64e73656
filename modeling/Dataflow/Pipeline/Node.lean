/-
Pipeline nodes: a processor bound to its configuration at a position.

A node decides where each argument of its processor comes from: its own
configuration first, then the context, then the declared default.  Running a node
turns a payload into the next one, together with the updated key origins.
-/
import Dataflow.Config.Node
import Dataflow.Pipeline.Error
import Dataflow.Processor

namespace Dataflow

inductive NodeRole where
  | operation
  /-- A probe that writes its value to the context. -/
  | contextInjector
  /-- A probe whose values the pipeline collects. -/
  | resultCollector
  | contextMutator
  | source
  | sink
  | payloadSource
  | payloadSink
  deriving DecidableEq, Repr, Inhabited

def NodeRole.tag : NodeRole → String
  | operation => "operation"
  | contextInjector => "context_injector"
  | resultCollector => "result_collector"
  | contextMutator => "context_mutator"
  | source => "source"
  | sink => "sink"
  | payloadSource => "payload_source"
  | payloadSink => "payload_sink"

structure Node where
  index : Nat
  config : NodeConfig
  processor : Processor

namespace Node

/-- A configured parameter that the processor does not declare; the least of them if there are
several. -/
def undeclared? (config : NodeConfig) (processor : Processor) : Option String :=
  config.parameters.keys.find? fun name => processor.parameters.all (·.name ≠ name)

/-- Binds a processor to its configuration.  A keyword needs a probe, and every configured
parameter must be declared. -/
def bind (index : Nat) (config : NodeConfig) (processor : Processor) :
    Except TopologyError Node :=
  if config.contextKeyword?.isSome ∧ processor.kind ≠ .dataProbe then
    .error (.contextKeywordOnNonProbe index processor.name)
  else match undeclared? config processor with
    | some name => .error (.unknownParameter index processor.name name)
    | none => .ok { index, config, processor }

variable (node : Node)

def name : String := node.processor.name

def label : String := "Node " ++ Decimal.natText node.index ++ "/" ++ node.name

def role : NodeRole :=
  match node.processor with
  | .operation _ => .operation
  | .probe _ => if node.config.contextKeyword?.isSome then .contextInjector else .resultCollector
  | .context _ => .contextMutator
  | .source _ => .source
  | .sink _ => .sink
  | .payloadSource _ => .payloadSource
  | .payloadSink _ => .payloadSink

def readsData : Bool := node.processor.readsData

def producesData : Bool := node.processor.producesData

def inputType : DataType := node.processor.inputType

def outputType : DataType := node.processor.outputType

def isConfigured (parameter : String) : Bool := node.config.parameters.contains parameter

/-- The context keys without which the node cannot run: parameters with neither a configured value
nor a default, then the keys that the processor reads from the context itself. -/
def requiredContextKeys : List String :=
  let parameters := node.processor.parameters.filter
    fun spec => spec.isRequired && !node.isConfigured spec.name
  node.processor.requiredKeys.foldl (fun keys key => addKey key keys)
    (parameters.map ParameterSpec.name)

/-- Parameters that the context may override and a default covers. -/
def optionalContextKeys : List String :=
  (node.processor.parameters.filter
    fun spec => !spec.isRequired && !node.isConfigured spec.name).map ParameterSpec.name

/-- The keys that the node is declared to create. -/
def createdKeys : List String :=
  match node.processor with
  | .context p => p.createdKeys
  | .probe _ => node.config.contextKeyword?.toList
  | _ => []

/-- The keys that the node is declared to delete. -/
def suppressedKeys : List String := node.processor.suppressedKeys

/-! ## Arguments -/

def argument (context : Context) (origins : KeyOrigins) (spec : ParameterSpec) :
    Except PipelineError (Json × ParameterSource) :=
  match node.config.parameters.get? spec.name with
  | some value => .ok (value, .config)
  | none =>
    match context.get? spec.name with
    | some value => .ok (value, .context (origins.producer? spec.name))
    | none =>
      match spec.default? with
      | some value => .ok (value, .default)
      | none => .error (.missingParameter node.index node.name spec.name)

/-- Resolves parameters in order of declaration, on top of those resolved before. -/
def resolveFrom (context : Context) (origins : KeyOrigins) :
    List ParameterSpec → Parameters → KeyMap ParameterSource →
      Except PipelineError (Parameters × KeyMap ParameterSource)
  | [], params, sources => .ok (params, sources)
  | spec :: rest, params, sources => do
    let (value, source) ← node.argument context origins spec
    resolveFrom context origins rest (params.insert spec.name value)
      (sources.insert spec.name source)

def resolve (context : Context) (origins : KeyOrigins) :
    Except PipelineError (Parameters × KeyMap ParameterSource) :=
  node.resolveFrom context origins node.processor.parameters .empty .empty

end Node

/-! ## Running a node -/

/-- What a processor call did. -/
structure Effect where
  payload : Payload
  origins : KeyOrigins
  /-- The value of a probe. -/
  probeValue? : Option Json := none
  emissions : List Emission := []

namespace Effect

/-- Stores a probe value in the context, if a keyword asks for it. -/
def ofProbe (index : Nat) (keyword? : Option String) (payload : Payload) (origins : KeyOrigins)
    (value : Json) : Effect :=
  match keyword? with
  | some keyword =>
    { payload := { payload with context := payload.context.insert keyword value }
      origins := origins.record keyword index
      probeValue? := some value }
  | none => { payload, origins, probeValue? := some value }

/-- Takes over the context behind a gate and what the gate recorded. -/
def ofGate (index : Nat) (data : TypedData) (origins : KeyOrigins) (gate : Gate) : Effect :=
  let forgotten := gate.deleted.foldl (fun o key => o.forget key) origins
  { payload := { data, context := gate.context }
    origins := gate.created.foldl (fun o key => o.record key index) forgotten }

/-- Takes over the data and the context entries of a payload source. -/
def ofProduced (index : Nat) (context : Context) (origins : KeyOrigins) (produced : Payload) :
    Effect :=
  let entries := produced.context.entries
  { payload :=
      { data := produced.data
        context := entries.foldl (fun c (key, value) => c.insert key value) context }
    origins := entries.foldl (fun o (key, _) => o.record key index) origins }

end Effect

/-- What a completed node leaves behind. -/
structure NodeOutcome extends Effect where
  sources : KeyMap ParameterSource

namespace Node

variable (node : Node)

/-- Calls the processor on resolved arguments. -/
def apply (filter : LogFilter) (params : Parameters) (payload : Payload) (origins : KeyOrigins) :
    Answer Effect :=
  match node.processor with
  | .operation p => do
    let data ← p.process payload.data params
    return { payload := { payload with data }, origins }
  | .probe p => do
    let value ← p.probe payload.data params
    return .ofProbe node.index node.config.contextKeyword? payload origins value
  | .context p =>
    let (result, gate) :=
      Gate.run (p.edit params) (.new payload.context p.name p.createdKeys p.suppressedKeys)
    result >>= fun _ => .ok (.ofGate node.index payload.data origins gate)
  | .source p => do
    let data ← p.produce params
    return { payload := { payload with data }, origins }
  | .sink p => do
    let emissions ← p.consume filter payload.data params
    return { payload, origins, emissions }
  | .payloadSource p => do
    let produced ← p.produce params
    return .ofProduced node.index payload.context origins produced
  | .payloadSink p => do
    let emissions ← p.consume filter payload params
    return { payload, origins, emissions }

/-- The data in front of a node that reads data must have its input type. -/
def checkInput (data : TypedData) : Except PipelineError Unit :=
  if node.readsData && !node.inputType.accepts data.type then
    .error (.typeMismatch node.index node.name node.inputType data.type)
  else .ok ()

/-- Runs the node: checks the type of the data, resolves the arguments, calls the processor. -/
def execute (filter : LogFilter) (payload : Payload) (origins : KeyOrigins) :
    Outcome PipelineError NodeOutcome := do
  node.checkInput payload.data
  let (params, sources) ← node.resolve payload.context origins
  let effect ← (node.apply filter params payload origins).mapError
    (.processor node.index node.name)
  return { effect with sources }

end Node
end Dataflow
