/-
What is logged while a pipeline is built and run.
-/
import Dataflow.Duration
import Dataflow.Log

namespace Dataflow

/-- An event in the life of a pipeline. -/
inductive PipelineMessage where
  /-- The pipeline passed its construction checks. -/
  | constructed (nodeCount : Nat)
  | runStarted (nodeCount : Nat) (inputType : String)
  | runCompleted (nodeCount : Nat) (duration : Duration)
  | nodeExecuted (label : String) (duration : Duration)
  /-- The node with this label aborted the run. -/
  | nodeFailed (label error : String)
  deriving DecidableEq, Inhabited

def PipelineMessage.record : PipelineMessage → LogRecord
  | constructed nodeCount =>
    { level := .debug
      text := "Constructed pipeline with " ++ Decimal.natText nodeCount ++ " nodes"
      fields := [("node_count", .nat nodeCount)]
      spanKind := "pipeline_constructed" }
  | runStarted nodeCount inputType =>
    { level := .debug
      text := "Running pipeline of " ++ Decimal.natText nodeCount ++ " nodes on " ++ inputType ++
        " input"
      fields := [("node_count", .nat nodeCount), ("input_type", .text inputType)]
      spanKind := "pipeline_run"
      spanLevel := .info }
  | runCompleted nodeCount duration =>
    { level := .debug
      text := "Pipeline of " ++ Decimal.natText nodeCount ++ " nodes completed in " ++
        duration.text
      fields := [("node_count", .nat nodeCount), ("duration_ms", .nat duration.millisField)]
      spanKind := "pipeline_run_completed"
      spanFields := [("node_count", .nat nodeCount), ("duration", .text duration.text)] }
  | nodeExecuted label duration =>
    { level := .trace
      text := label ++ " executed in " ++ duration.text
      fields := [("node", .text label), ("duration_us", .nat duration.microsField)]
      spanKind := "node_executed"
      spanFields := [("node", .text label), ("duration", .text duration.text)] }
  | nodeFailed label error =>
    { level := .warn
      text := label ++ " failed: " ++ error
      fields := [("node", .text label), ("error", .text error)]
      spanKind := "node_failed" }

end Dataflow
