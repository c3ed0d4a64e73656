/-
Settings of an orchestrator and its workers.

Every setting may be left out and has a default then.  Two counts that must not
be zero are raised to one.  A file gives settings as records of named parts; how
a part is spelled depends on the format of the file, so a format is a record of
readers and `Settings.read` puts together what they find.
-/
import Dataflow.Config.Node
import Dataflow.Duration

namespace Dataflow

inductive ExecutorKind where
  /-- The worker runs each job itself. -/
  | sequential
  /-- Jobs run on a pool of threads that may block. -/
  | blockingPool
  deriving DecidableEq, Repr, Inhabited

namespace ExecutorKind

/-- The name by which settings choose an executor. -/
def name : ExecutorKind → String
  | sequential => "sequential"
  | blockingPool => "blocking_pool"

/-- The name by which reports call an executor. -/
def title : ExecutorKind → String
  | sequential => "Sequential"
  | blockingPool => "BlockingPool"

def ofName? (name : String) : Option ExecutorKind :=
  [sequential, blockingPool].find? (fun kind => kind.name = name)

end ExecutorKind

structure OrchestratorSettings where
  queueCapacity? : Option Nat := none
  popTimeoutMs? : Option Nat := none
  deriving Inhabited

namespace OrchestratorSettings

/-- How many jobs may wait for dispatch; at least one. -/
def queueCapacity (s : OrchestratorSettings) : Nat := max (s.queueCapacity?.getD 1024) 1

/-- How long the orchestrator waits for a job before it looks for results. -/
def popTimeout (s : OrchestratorSettings) : Duration := .ofMillis (s.popTimeoutMs?.getD 50)

end OrchestratorSettings

structure WorkerSettings where
  count? : Option Nat := none
  pollIntervalMs? : Option Nat := none
  deriving Inhabited

namespace WorkerSettings

/-- How many workers there are; at least one. -/
def count (s : WorkerSettings) : Nat := max (s.count?.getD 2) 1

/-- How long a worker sleeps when it has found no job. -/
def pollInterval (s : WorkerSettings) : Duration := .ofMillis (s.pollIntervalMs?.getD 20)

end WorkerSettings

structure Settings where
  orchestrator : OrchestratorSettings := {}
  worker : WorkerSettings := {}
  executor : ExecutorKind := .sequential
  resultTimeoutMs? : Option Nat := none
  pipeline? : Option PipelineSpec := none
  deriving Inhabited

namespace Settings

/-- How long a caller waits for the result of a job. -/
def resultTimeout (s : Settings) : Duration := .ofMillis (s.resultTimeoutMs?.getD 10000)

/-- How a file format spells the parts of settings.  A part of type `α` is read in the monad `m`,
which can fail. -/
structure Spelling (m : Type → Type) (α : Type) where
  /-- The given parts of a record, of which the names are known. -/
  record : List String → α → m (List (String × α))
  /-- A number, or nothing. -/
  number : α → m (Option Nat)
  executor : α → m ExecutorKind
  /-- A pipeline, or nothing. -/
  pipeline : α → m (Option PipelineSpec)

variable {m : Type → Type} [Monad m] {α : Type}

/-- Reads a part, unless it is left out. -/
def part {β : Type} (read : α → m β) (default : β) (name : String) (parts : List (String × α)) :
    m β :=
  match parts.lookup name with
  | some value => read value
  | none => pure default

def readOrchestrator (spelling : Spelling m α) (value : α) : m OrchestratorSettings := do
  let parts ← spelling.record ["queue_capacity", "pop_timeout_ms"] value
  let queueCapacity? ← part spelling.number none "queue_capacity" parts
  let popTimeoutMs? ← part spelling.number none "pop_timeout_ms" parts
  return { queueCapacity?, popTimeoutMs? }

def readWorker (spelling : Spelling m α) (value : α) : m WorkerSettings := do
  let parts ← spelling.record ["count", "poll_interval_ms"] value
  let count? ← part spelling.number none "count" parts
  let pollIntervalMs? ← part spelling.number none "poll_interval_ms" parts
  return { count?, pollIntervalMs? }

/-- Reads settings from the parts of a file. -/
def read (spelling : Spelling m α) (value : α) : m Settings := do
  let parts ← spelling.record
    ["orchestrator", "worker", "executor", "result_timeout_ms", "pipeline"] value
  let orchestrator ← part (readOrchestrator spelling) {} "orchestrator" parts
  let worker ← part (readWorker spelling) {} "worker" parts
  let executor ← part spelling.executor .sequential "executor" parts
  let resultTimeoutMs? ← part spelling.number none "result_timeout_ms" parts
  let pipeline? ← part spelling.pipeline none "pipeline" parts
  return { orchestrator, worker, executor, resultTimeoutMs?, pipeline? }

end Settings
end Dataflow
