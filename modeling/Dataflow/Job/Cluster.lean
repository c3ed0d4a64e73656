/-
Orchestrators and workers that share one broker.

A cluster is what they and the broker hold, with a log of what happened.  An
action is one atomic step of one component or of an outside client, and
`Cluster.act` performs it; actions may come in any order, and one that cannot be
done changes nothing.  `Cluster.settle` lets all running components take turns
until nothing more happens.
-/
import Dataflow.Job.Orchestrator
import Dataflow.Job.Worker

namespace Dataflow

structure Cluster where
  broker : Broker := {}
  orchestrators : List Orchestrator := []
  workers : List Worker := []
  /-- What happened, oldest first. -/
  log : List JobEvent := []

/-- An atomic step.  Components are given by number. -/
inductive ClusterAction where
  /-- A caller queues a job. -/
  | enqueue (orchestrator : Nat) (job : Job) (wantFuture : Bool)
  | dispatch (orchestrator : Nat)
  | collect (orchestrator : Nat)
  /-- A worker takes the oldest job and does it. -/
  | handle (worker : Nat)
  /-- The steps of an orchestrator's run other than those of its loop. -/
  | beginRun (orchestrator : Nat)
  | noteConnection (orchestrator : Nat)
  | leaveLoop (orchestrator : Nat)
  | releaseRun (orchestrator : Nat)
  /-- A stop is signalled without a stop call. -/
  | signalStop (orchestrator : Nat)
  /-- The steps of a stop call. -/
  | beginStop (orchestrator : Nat)
  | releaseStop (orchestrator call : Nat)
  /-- The steps of a worker's run other than those of its loop. -/
  | beginWork (worker : Nat)
  | leaveWork (worker : Nat) (result : Except JobError Unit)
  | endWork (worker : Nat)
  | signalWorker (worker : Nat)
  /-- An outside client connects, closes what it connected, or publishes. -/
  | connect
  | close
  | publish (message : Message)

namespace Cluster

/-- A component's step, put back into the cluster. -/
def atOrchestrator (i : Nat) (move : Move Orchestrator) (c : Cluster) : Cluster :=
  match c.orchestrators[i]? with
  | none => c
  | some o =>
    let m := move o c.broker
    { c with
      broker := m.broker
      orchestrators := c.orchestrators.set i m.state
      log := c.log ++ m.events }

def atWorker (i : Nat) (move : Move Worker) (c : Cluster) : Cluster :=
  match c.workers[i]? with
  | none => c
  | some w =>
    let m := move w c.broker
    { c with
      broker := m.broker
      workers := c.workers.set i m.state
      log := c.log ++ m.events }

/-- Queues a job and tells the log. -/
def enqueue (c : Cluster) (i : Nat) (job : Job) (wantFuture : Bool) :
    Except JobError (Ticket × Cluster) :=
  match c.orchestrators[i]? with
  | none => .error .queueClosed
  | some o => do
    let (ticket, o) ← o.enqueue job wantFuture
    return (ticket,
      { c with
        orchestrators := c.orchestrators.set i o
        log := c.log ++ [.message (o.enqueuedMessage job.id)] })

/-- The subscription of workers, whether or not the broker is connected. -/
def workSubscription? : Option Subscription :=
  (ChannelPattern.parse Job.pattern).toOption.map fun pattern => { pattern }

def handleNext (bench : Workbench) : Move Worker :=
  match workSubscription? with
  | some subscription => Worker.handleNext bench subscription
  | none => Move.stay

def act (bench : Workbench) : ClusterAction → Cluster → Cluster
  | .enqueue i job wantFuture, c =>
    match c.enqueue i job wantFuture with
    | .ok (_, c) => c
    | .error _ => c
  | .dispatch i, c => c.atOrchestrator i Orchestrator.dispatch
  | .collect i, c => c.atOrchestrator i Orchestrator.collect
  | .handle i, c => c.atWorker i (handleNext bench)
  | .beginRun i, c => c.atOrchestrator i Orchestrator.beginRun
  | .noteConnection i, c => c.atOrchestrator i Orchestrator.noteConnection
  | .leaveLoop i, c => c.atOrchestrator i Orchestrator.leaveLoop
  | .releaseRun i, c => c.atOrchestrator i Orchestrator.releaseRun
  | .signalStop i, c => { c with orchestrators := c.orchestrators.modify i .signalStop }
  | .beginStop i, c => { c with orchestrators := c.orchestrators.modify i .beginStop }
  | .releaseStop i call, c => c.atOrchestrator i (Orchestrator.releaseStop call)
  | .beginWork i, c => c.atWorker i Worker.beginRun
  | .leaveWork i result, c => c.atWorker i (Worker.leaveLoop result)
  | .endWork i, c => c.atWorker i Worker.endRun
  | .signalWorker i, c => { c with workers := c.workers.modify i .signalStop }
  | .connect, c => { c with broker := c.broker.connect }
  | .close, c => { c with broker := c.broker.close }
  | .publish m, c =>
    match c.broker.publish m with
    | .ok b => { c with broker := b }
    | .error _ => c

/-- Performs actions in order. -/
def actAll (bench : Workbench) (actions : List ClusterAction) (c : Cluster) : Cluster :=
  actions.foldl (fun c a => act bench a c) c

/-! ## Taking turns -/

def orchestratorTurns (c : Cluster) : Cluster :=
  (List.range c.orchestrators.length).foldl (fun c i => c.atOrchestrator i Orchestrator.turn) c

def workerTurns (bench : Workbench) (c : Cluster) : Cluster :=
  (List.range c.workers.length).foldl (fun c i => c.atWorker i (Worker.turn bench)) c

def isQuiet (c : Cluster) : Bool :=
  c.orchestrators.all (·.isQuiet c.broker) && c.workers.all (·.isQuiet c.broker)

/-- Repeats a step up to a number of times, until a condition holds. -/
def untilQuiet (quiet : Cluster → Bool) (step : Cluster → Cluster) :
    (count : Nat) → Cluster → Cluster
  | 0, c => c
  | count + 1, c => if quiet c then c else untilQuiet quiet step count (step c)

/-- How many turns may change something: each component has a few steps that begin or end its run,
a queued job is dispatched, done and collected, and a message is handed out twice at most. -/
def turnLimit (c : Cluster) : Nat :=
  5 * (c.orchestrators.length + c.workers.length) +
    3 * (c.orchestrators.flatMap (·.queue)).length + 2 * c.broker.size + 1

/-- All running components go on until nothing more happens. -/
def settle (bench : Workbench) (c : Cluster) : Cluster :=
  untilQuiet isQuiet (fun c => c.orchestratorTurns.workerTurns bench) c.turnLimit c

def settleOrchestrators (c : Cluster) : Cluster :=
  untilQuiet (fun c => c.orchestrators.all (·.isQuiet c.broker)) orchestratorTurns c.turnLimit c

def settleWorkers (bench : Workbench) (c : Cluster) : Cluster :=
  untilQuiet (fun c => c.workers.all (·.isQuiet c.broker)) (workerTurns bench) c.turnLimit c

/-! ## What clients do -/

/-- A run of an orchestrator begins, and everything settles. -/
def startOrchestrator (bench : Workbench) (i : Nat) (c : Cluster) : Cluster :=
  (act bench (.beginRun i) c).settle bench

/-- Adds a worker that begins its run. -/
def addWorker (bench : Workbench) (executor : ExecutorKind) (c : Cluster) : Cluster :=
  let number := c.workers.length
  let worker : Worker := { id := "worker-" ++ Decimal.natText number, executor }
  act bench (.beginWork number) { c with workers := c.workers ++ [worker] }

/-- Adds a number of workers, and everything settles. -/
def startWorkers (bench : Workbench) (executor : ExecutorKind) (count : Nat) (c : Cluster) :
    Cluster :=
  ((List.range count).foldl (fun c _ => c.addWorker bench executor) c).settle bench

/-- A whole stop call, behind which the run comes to its end. -/
def stopOrchestrator (bench : Workbench) (i : Nat) (c : Cluster) : Cluster :=
  let call := ((c.orchestrators[i]?).map (·.stopCalls.length)).getD 0
  (actAll bench [.beginStop i, .releaseStop i call, .releaseStop i call] c).settleOrchestrators

/-- Only the signal, behind which the run comes to its end. -/
def cancelOrchestrator (bench : Workbench) (i : Nat) (c : Cluster) : Cluster :=
  (act bench (.signalStop i) c).settleOrchestrators

def stopWorkers (bench : Workbench) (c : Cluster) : Cluster :=
  ((List.range c.workers.length).foldl (fun c i => act bench (.signalWorker i) c) c).settleWorkers
    bench

def future? (c : Cluster) (i : Nat) (ticket : Ticket) : Option (Future Payload) := do
  (← c.orchestrators[i]?).future? ticket

def completed (c : Cluster) : Nat := c.workers.foldr (fun w n => w.completed + n) 0

def failed (c : Cluster) : Nat := c.workers.foldr (fun w n => w.failed + n) 0

end Cluster
end Dataflow
