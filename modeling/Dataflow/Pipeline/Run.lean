/-
One run of a list of nodes over one payload.

Nodes run strictly in order.  The first error ends the run; a crash ends it too
and leaves no record but the traces of the nodes before it.  A run is a value: it
holds the records of the completed nodes, the events in order and the result.
How long the parts of a run take is not computed, but told by a stopwatch.
-/
import Dataflow.Log.Pipeline
import Dataflow.Pipeline.Node

namespace Dataflow

/-- How long the nodes of a run and the whole of it took. -/
structure Stopwatch where
  node : Nat → Duration
  run : Duration

/-- No time passed at all. -/
def Stopwatch.stopped : Stopwatch := ⟨fun _ => ⟨0⟩, ⟨0⟩⟩

/-- The record of a node that completed in a run. -/
structure NodeRun where
  node : Node
  sources : KeyMap ParameterSource
  /-- The value that the pipeline collects. -/
  collected? : Option Json
  duration : Duration

/-- Something that can be observed of a run from outside. -/
inductive RunEvent where
  | message (m : PipelineMessage)
  | emitted (e : Emission)

namespace RunEvent

def logged? : RunEvent → Option LogEvent
  | message m => some m.record.event
  | emitted (.logged event) => some event
  | emitted (.recorded _) => none

/-- The float that a sink handed out, if it is one. -/
def recorded? : RunEvent → Option Float
  | emitted (.recorded value) => some value
  | _ => none

/-- Whether this comes from a sink. -/
def isEmission : RunEvent → Bool
  | emitted _ => true
  | message _ => false

end RunEvent

structure Run where
  /-- The completed nodes, in order. -/
  completed : List NodeRun
  events : List RunEvent
  /-- The key origins behind the last completed node. -/
  origins : KeyOrigins
  result : Outcome PipelineError Payload

namespace Run

def recordOf (watch : Stopwatch) (node : Node) (outcome : NodeOutcome) : NodeRun :=
  { node
    sources := outcome.sources
    collected? := if node.role = .resultCollector then outcome.probeValue? else none
    duration := watch.node node.index }

/-- The events of a completed node: first what it emitted, then that it completed. -/
def eventsOf (watch : Stopwatch) (node : Node) (outcome : NodeOutcome) : List RunEvent :=
  outcome.emissions.map .emitted ++
    [.message (.nodeExecuted node.label (watch.node node.index))]

/-- Runs nodes in order from a payload and the origins of its keys. -/
def ofNodes (filter : LogFilter) (watch : Stopwatch) :
    List Node → Payload → KeyOrigins → Run
  | [], payload, origins => { completed := [], events := [], origins, result := .ok payload }
  | node :: rest, payload, origins =>
    match node.execute filter payload origins with
    | .ok outcome =>
      let later := ofNodes filter watch rest outcome.payload outcome.origins
      { later with
        completed := recordOf watch node outcome :: later.completed
        events := eventsOf watch node outcome ++ later.events }
    | .error e =>
      { completed := []
        events := [.message (.nodeFailed node.label e.message)]
        origins
        result := .error e }
    | .crash m => { completed := [], events := [], origins, result := .crash m }

/-- The event that closes a successful run. -/
def closing (watch : Stopwatch) (count : Nat) : Outcome PipelineError Payload → List RunEvent
  | .ok _ => [.message (.runCompleted count watch.run)]
  | _ => []

/-- A whole run from a caller's payload. -/
def of (filter : LogFilter) (watch : Stopwatch) (nodes : List Node) (payload : Payload) : Run :=
  let run := ofNodes filter watch nodes payload (.ofContext payload.context)
  { run with
    events := .message (.runStarted nodes.length payload.data.type.name) :: run.events ++
      closing watch nodes.length run.result }

end Run
end Dataflow
