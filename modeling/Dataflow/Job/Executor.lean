/-
Running pipelines on behalf of workers.

An executor takes a task and answers with a future.  The sequential executor has
run the task when it answers; the blocking pool runs it later.  Either way a task
that crashes ends in an error, and the crash goes no further.  The pool needs a
running scheduler; where there is none, the sequential executor stands in.
-/
import Dataflow.Config.Settings
import Dataflow.Job.Future
import Dataflow.Log
import Dataflow.Outcome

namespace Dataflow

/-- The outcome of a task with a crash turned into an error. -/
def Outcome.contain {α : Type} : Outcome PipelineError α → Except PipelineError α
  | ok value => .ok value
  | error e => .error e
  | crash message => .error (.taskPanicked (crashText message))

/-- Waits for a future that will get its value, if any, before everything else ends. -/
def Future.await {α : Type} (f : Future α) : Except JobError α :=
  match f.value? with
  | some value => .ok value
  | none => .error .abandoned

namespace ExecutorKind

variable {α : Type}

/-- The executor that is used where the given one was asked for. -/
def available (kind : ExecutorKind) (hasScheduler : Bool) : ExecutorKind :=
  if hasScheduler then kind else sequential

/-- What is logged when an executor stands in for another one. -/
def fallbackEvent? (kind : ExecutorKind) (hasScheduler : Bool) : Option LogEvent :=
  if kind.available hasScheduler = kind then none
  else some
    { level := .warn
      message := "no tokio runtime for blocking_pool executor, using sequential"
      fields := [] }

def submit (kind : ExecutorKind) (task : Outcome PipelineError α) :
    Future (Except PipelineError α) :=
  match kind with
  | sequential => .completed task.contain
  | blockingPool => .new

/-- The same future when the task has been run. -/
def settle (kind : ExecutorKind) (task : Outcome PipelineError α) :
    Future (Except PipelineError α) :=
  match (kind.submit task).resolve task.contain with
  | .ok future => future
  | .error _ => kind.submit task

/-- Every executor delivers the same in the end. -/
@[simp] theorem settle_eq (kind : ExecutorKind) (task : Outcome PipelineError α) :
    kind.settle task = .completed task.contain := by
  cases kind <;> rfl

end ExecutorKind
end Dataflow
