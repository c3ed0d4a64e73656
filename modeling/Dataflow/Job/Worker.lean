/-
Workers: they take jobs, run their pipelines and publish the results.

Whatever goes wrong with one job is counted and logged, its message is
acknowledged, and the worker goes on to the next.  Only a failure of the loop
itself, which is that the worker cannot subscribe, ends its run; the connection
is closed either way.
-/
import Dataflow.Job.Descriptor
import Dataflow.Job.Executor
import Dataflow.Job.Step
import Dataflow.Pipeline

namespace Dataflow

/-- What workers build and run pipelines with. -/
structure Workbench where
  registry : Registry
  load : PipelineLoader
  filter : LogFilter := .off
  watch : Stopwatch := .stopped

inductive WorkerRun where
  | idle
  | looping
  /-- The loop has ended and the connection is still to be closed. -/
  | closing (result : Except JobError Unit)
  | returned (result : Except JobError Unit)

structure Worker where
  id : String
  executor : ExecutorKind := .sequential
  stopped : Bool := false
  /-- How many jobs were completed. -/
  completed : Nat := 0
  /-- How many jobs failed. -/
  failed : Nat := 0
  run : WorkerRun := .idle

namespace Workbench

/-- Runs the pipeline of a job on an executor: the outcome, and what happened in the run. -/
def execute (bench : Workbench) (executor : ExecutorKind) (spec : PipelineSpec)
    (payload : Payload) : Except JobError Payload × List RunEvent :=
  match Pipeline.ofSpec bench.registry bench.load spec with
  | .error e => (.error (.pipeline e), [])
  | .ok pipeline =>
    let run := (pipeline.process bench.filter bench.watch payload).1
    let result : Except JobError Payload := do
      let delivered ← (executor.settle run.result).await
      delivered.mapError .pipeline
    (result, run.events)

/-- Does a job: the message that reports its result, or why there is none. -/
def status (bench : Workbench) (executor : ExecutorKind) (request : Message) :
    Except JobError Message × List RunEvent :=
  match JobDescriptor.ofMetadata request.metadata with
  | .error e => (.error e, [])
  | .ok descriptor =>
    let (result, events) := bench.execute executor descriptor.pipeline request.payload
    (result.map (Job.status descriptor.id), events)

end Workbench

namespace Worker

/-- The identifier under which a worker logs a job. -/
def loggedId (request : Message) : String := (request.metadataText? Job.idKey).getD "<unknown>"

/-- Does the job that a message asks for.  The message is acknowledged whatever comes of it. -/
def handle (bench : Workbench) (request : Message) : Move Worker := fun w b =>
  let job := loggedId request
  let (status, happened) := bench.status w.executor request
  let published : Except JobError Broker := do
    (b.publish (← status)).mapError .transport
  let (w, b, m) : Worker × Broker × JobMessage :=
    match published with
    | .ok b => ({ w with completed := w.completed + 1 }, b, .completed w.id job bench.watch.run)
    | .error e => ({ w with failed := w.failed + 1 }, b, .failed w.id job e.message)
  { state := w
    broker := (b.acknowledge request).2
    events := happened.map .run ++ [.message m] }

/-- Takes the oldest job there is and does it.  A subscription that was opened before the broker
lost its connections still takes jobs. -/
def handleNext (bench : Workbench) (subscription : Subscription) : Move Worker := fun w b =>
  match subscription.next? b with
  | none => Move.stay w b
  | some (request, b) => handle bench request w b

/-! ## Runs -/

def beginRun : Move Worker := fun w b =>
  match w.run with
  | .idle =>
    { state := { w with run := .looping }
      broker := b.connect
      events := [.message (.workerStarted w.id w.executor.name)] }
  | _ => Move.stay w b

def signalStop (w : Worker) : Worker := { w with stopped := true }

def leaveLoop (result : Except JobError Unit) : Move Worker := fun w b =>
  match w.run with
  | .looping => { state := { w with run := .closing result }, broker := b }
  | _ => Move.stay w b

/-- What is logged when a run ends. -/
def stoppedMessage (w : Worker) : JobMessage := .workerStopped w.id w.completed w.failed

/-- The connection is closed and the run ends. -/
def endRun : Move Worker := fun w b =>
  match w.run with
  | .closing result =>
    { state := { w with run := .returned result }
      broker := b.close
      events := [.message w.stoppedMessage] }
  | _ => Move.stay w b

/-- One round of the loop: at most one job is done. -/
def poll (bench : Workbench) : Move Worker := fun w b =>
  if w.stopped then leaveLoop (.ok ()) w b
  else match b.subscribe Job.pattern with
    | .error e => leaveLoop (.error (.transport e)) w b
    | .ok subscription => handleNext bench subscription w b

/-- What the run does next. -/
def turn (bench : Workbench) : Move Worker := fun w b =>
  match w.run with
  | .looping => poll bench w b
  | .closing _ => endRun w b
  | _ => Move.stay w b

/-- Whether the run waits for something to happen. -/
def isQuiet (w : Worker) (b : Broker) : Bool :=
  match w.run with
  | .idle => true
  | .returned _ => true
  | .closing _ => false
  | .looping =>
    !w.stopped &&
      (match b.subscribe Job.pattern with
        | .ok subscription => (subscription.next? b).isNone
        | .error _ => false)

/-- The result of a run that has ended. -/
def result? (w : Worker) : Option (Except JobError Unit) :=
  match w.run with
  | .returned result => some result
  | _ => none

end Worker
end Dataflow
