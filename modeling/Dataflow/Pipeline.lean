/-
Pipelines: checked lists of nodes that remember what their runs did.

A pipeline can only be built from a list of nodes that passes the topology
checks.  Across runs it counts the calls of each node, adds up their times and
collects the values of its probes; of the latest run it keeps the records of the
completed nodes.  None of this influences a later run.
-/
import Dataflow.Pipeline.Inspection
import Dataflow.Pipeline.Run
import Dataflow.Pipeline.Topology

namespace Dataflow

/-- How often a node completed and how long that took in all. -/
structure NodeTiming where
  label : String
  calls : Nat := 0
  total : Duration := ⟨0⟩
  deriving Inhabited

/-- The mean time of a call, in whole nanoseconds and at most what fits a 64-bit word; nothing
before the first call. -/
def NodeTiming.mean? (timing : NodeTiming) : Option Duration :=
  if timing.calls = 0 then none
  else some ⟨min (timing.total.nanos / timing.calls) (Duration.wordSize - 1)⟩

/-- Reads the node list of a pipeline file. -/
abbrev PipelineLoader := String → Except ConfigError (List NodeConfig)

structure Pipeline where
  nodes : List Node
  timings : List NodeTiming
  /-- The values of result collectors by label, in the order of the calls. -/
  probeResults : KeyMap (List Json) := .empty
  /-- The completed nodes of the latest run. -/
  lastRun : List NodeRun := []

namespace Pipeline

/-- A pipeline over nodes that passed the checks. -/
def ofNodes (nodes : List Node) : Pipeline :=
  { nodes, timings := nodes.map fun node => { label := node.label } }

def new (registry : Registry) (configs : List NodeConfig) : Except TopologyError Pipeline :=
  (Topology.build registry configs).map ofNodes

/-- What is logged when a pipeline passed its checks. -/
def constructedMessage (p : Pipeline) : PipelineMessage := .constructed p.nodes.length

/-- The node list that a specification stands for. -/
def configsOf (load : PipelineLoader) : PipelineSpec → Except PipelineError (List NodeConfig)
  | .nodes configs => .ok configs
  | .path path => (load path).mapError (fun e => .load e.message)

def ofSpec (registry : Registry) (load : PipelineLoader) (spec : PipelineSpec) :
    Except PipelineError Pipeline := do
  let configs ← configsOf load spec
  (new registry configs).mapError .topology

/-- Adds a completed call to the time account of its node. -/
def addTiming (timings : List NodeTiming) (record : NodeRun) : List NodeTiming :=
  timings.modify record.node.index fun timing =>
    { timing with
      calls := timing.calls + 1
      total := ⟨timing.total.nanos + record.duration.nanos⟩ }

/-- Adds a collected value under the label of its node. -/
def addCollected (results : KeyMap (List Json)) (record : NodeRun) : KeyMap (List Json) :=
  match record.collected? with
  | some value =>
    let label := record.node.label
    results.insert label ((results.get? label).getD [] ++ [value])
  | none => results

/-- What a run leaves behind in the pipeline.  A crashed run leaves no latest run. -/
def remember (p : Pipeline) (run : Run) : Pipeline :=
  { p with
    timings := run.completed.foldl addTiming p.timings
    probeResults := run.completed.foldl addCollected p.probeResults
    lastRun := match run.result with
      | .crash _ => p.lastRun
      | _ => run.completed }

/-- Runs every node in order over a payload. -/
def process (p : Pipeline) (filter : LogFilter) (watch : Stopwatch) (payload : Payload) :
    Run × Pipeline :=
  let run := Run.of filter watch p.nodes payload
  (run, p.remember run)

def inspect (p : Pipeline) : Inspection := .ofNodes p.nodes

end Pipeline
end Dataflow
