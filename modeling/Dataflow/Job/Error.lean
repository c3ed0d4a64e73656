/-
Failures in the life of a job.
-/
import Dataflow.Channel.Error
import Dataflow.Duration
import Dataflow.Pipeline.Error

namespace Dataflow

inductive JobError where
  /-- A result handle has one writer; the second write is refused. -/
  | alreadyResolved
  /-- The caller stopped waiting; the job may still resolve the handle. -/
  | timeout (duration : Duration)
  | abandoned
  | queueFull (capacity : Nat)
  | queueClosed
  | invalidDescriptor (text : String)
  | pipeline (e : PipelineError)
  | transport (e : TransportError)
  deriving DecidableEq, Inhabited

def JobError.message : JobError → String
  | alreadyResolved => "result handle was already resolved"
  | timeout duration => "no result within " ++ duration.text
  | abandoned => "result handle was dropped before it was resolved"
  | queueFull capacity => "job queue is full (" ++ Decimal.natText capacity ++ " jobs)"
  | queueClosed => "job queue is closed"
  | invalidDescriptor text => "malformed job descriptor: " ++ text
  | pipeline e => e.message
  | transport e => e.message

end Dataflow
