/-
What is logged while jobs are queued, dispatched, run and resolved.
-/
import Dataflow.Duration
import Dataflow.Log

namespace Dataflow

/-- An event at an orchestrator or a worker. -/
inductive JobMessage where
  | orchestratorStarted (transport : String) (queueCapacity : Nat)
  | orchestratorStopped (dispatched pending : Nat)
  | enqueued (job : String) (pending : Nat)
  | dispatched (job channel : String)
  /-- The job could not be handed to the transport; its future is dropped. -/
  | dispatchFailed (job error : String)
  | resolved (job : String)
  /-- A status arrived that no pending future is waiting for. -/
  | statusIgnored (channel reason : String)
  | workerStarted (worker executor : String)
  | workerStopped (worker : String) (completed failed : Nat)
  | completed (worker job : String) (duration : Duration)
  | failed (worker job error : String)
  deriving DecidableEq, Inhabited

def JobMessage.record : JobMessage → LogRecord
  | orchestratorStarted transport queueCapacity =>
    { level := .info
      text := "Orchestrator started on " ++ transport ++ " transport, queue capacity " ++
        Decimal.natText queueCapacity
      fields := [("transport", .text transport), ("queue_capacity", .nat queueCapacity)]
      spanKind := "orchestrator" }
  | orchestratorStopped count pending =>
    { level := .info
      text := "Orchestrator stopped after dispatching " ++ Decimal.natText count ++
        " jobs, " ++ Decimal.natText pending ++ " futures unresolved"
      fields := [("dispatched", .nat count), ("pending", .nat pending)]
      spanKind := "orchestrator_stopped" }
  | enqueued job pending =>
    { level := .debug
      text := "Enqueued job " ++ job ++ " (" ++ Decimal.natText pending ++ " awaiting results)"
      fields := [("job_id", .text job), ("pending", .nat pending)]
      spanKind := "job_enqueued" }
  | dispatched job channel =>
    { level := .debug
      text := "Dispatched job " ++ job ++ " on '" ++ channel ++ "'"
      fields := [("job_id", .text job), ("channel", .text channel)]
      spanKind := "job_dispatched" }
  | dispatchFailed job error =>
    { level := .error
      text := "Failed to dispatch job " ++ job ++ ": " ++ error
      fields := [("job_id", .text job), ("error", .text error)]
      spanKind := "job_dispatch_failed" }
  | resolved job =>
    { level := .info
      text := "Resolved result for job " ++ job
      fields := [("job_id", .text job)]
      spanKind := "job_resolved" }
  | statusIgnored channel reason =>
    { level := .warn
      text := "Ignoring status on '" ++ channel ++ "': " ++ reason
      fields := [("channel", .text channel), ("reason", .text reason)]
      spanKind := "status_ignored" }
  | workerStarted worker executor =>
    { level := .info
      text := "Worker " ++ worker ++ " started with " ++ executor ++ " executor"
      fields := [("worker_id", .text worker), ("executor", .text executor)]
      spanKind := "worker" }
  | workerStopped worker done lost =>
    { level := .info
      text := "Worker " ++ worker ++ " stopped: " ++ Decimal.natText done ++
        " jobs completed, " ++ Decimal.natText lost ++ " failed"
      fields := [("worker_id", .text worker), ("jobs_completed", .nat done),
        ("jobs_failed", .nat lost)]
      spanKind := "worker_stopped" }
  | completed worker job duration =>
    { level := .debug
      text := "Worker " ++ worker ++ " completed job " ++ job ++ " in " ++ duration.text
      fields := [("worker_id", .text worker), ("job_id", .text job),
        ("duration_ms", .nat duration.millisField)]
      spanKind := "job_completed"
      spanFields := [("worker_id", .text worker), ("job_id", .text job),
        ("duration", .text duration.text)] }
  | failed worker job error =>
    { level := .error
      text := "Worker " ++ worker ++ " failed job " ++ job ++ ": " ++ error
      fields := [("worker_id", .text worker), ("job_id", .text job), ("error", .text error)]
      spanKind := "job_failed" }

end Dataflow
