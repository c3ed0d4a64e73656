/-
The intake of jobs and the way of their results.

An orchestrator queues jobs up to a capacity and publishes them one by one.  It
hands out futures and keeps those whose results have not arrived in a table by
job; a status message resolves the future of the job that its context names.

A run connects to the broker, notes that it holds a connection, and repeats its
loop until a stop is signalled.  A run that ends and a call to stop both release
the connection: whoever takes back the note closes the connection, so that it is
closed once.  Connecting, noting, taking and closing are steps of their own, and
runs and stop calls may interleave in any way.
-/
import Dataflow.Config.Settings
import Dataflow.Job.Descriptor
import Dataflow.Job.Step

namespace Dataflow

/-- What a caller gets for a queued job. -/
structure Ticket where
  id : JobId
  /-- The number of the future, if one was wanted. -/
  future? : Option Nat

inductive Release where
  /-- The note is still to be taken. -/
  | taking
  /-- The note was taken and the connection is still to be closed. -/
  | closing
  deriving DecidableEq, Repr, Inhabited

inductive OrchestratorRun where
  | idle
  /-- It has connected and not noted so yet. -/
  | joining
  | looping
  | releasing (release : Release)
  deriving DecidableEq, Repr, Inhabited

structure Orchestrator where
  settings : OrchestratorSettings := {}
  /-- The jobs that wait for dispatch, oldest first. -/
  queue : List Job := []
  /-- Every future that was handed out. -/
  futures : List (Future Payload) := []
  /-- The numbers of the futures that wait for a result, by the text of the job's identifier. -/
  pending : KeyMap Nat := .empty
  /-- A stop was signalled; no more jobs are taken in. -/
  stopped : Bool := false
  /-- The note that a connection is held. -/
  connected : Bool := false
  /-- How many jobs were published. -/
  dispatched : Nat := 0
  run : OrchestratorRun := .idle
  /-- The stop calls that are in progress. -/
  stopCalls : List Release := []
  deriving Inhabited

namespace Orchestrator

/-! ## Intake -/

/-- Puts a job at the end of the queue.  The other end is open as long as there is an
orchestrator, so only a full queue refuses a job. -/
def send (o : Orchestrator) (job : Job) : Except JobError Orchestrator :=
  if o.settings.queueCapacity ≤ o.queue.length then
    .error (.queueFull o.settings.queueCapacity)
  else .ok { o with queue := o.queue ++ [job] }

/-- Takes a job in, or does not: the answer to the caller, and what becomes of the orchestrator.  A
future that is wanted is pending before the job is sent, and no longer if the job is refused. -/
def submit (o : Orchestrator) (job : Job) (wantFuture : Bool) :
    Except JobError Ticket × Orchestrator :=
  if o.stopped then (.error .queueClosed, o)
  else
    let number := o.futures.length
    let ready :=
      if wantFuture then { o with pending := o.pending.insert job.id.text number } else o
    match ready.send job with
    | .error e => (.error e, { ready with pending := ready.pending.erase job.id.text })
    | .ok sent =>
      if wantFuture then
        (.ok { id := job.id, future? := some number },
          { sent with futures := sent.futures ++ [.new] })
      else (.ok { id := job.id, future? := none }, sent)

/-- Queues a job.  A refused job leaves no trace. -/
def enqueue (o : Orchestrator) (job : Job) (wantFuture : Bool) :
    Except JobError (Ticket × Orchestrator) :=
  let (answer, after) := o.submit job wantFuture
  answer.map fun ticket => (ticket, after)

/-- What is logged about a queued job. -/
def enqueuedMessage (after : Orchestrator) (id : JobId) : JobMessage :=
  .enqueued id.text after.pending.size

def future? (o : Orchestrator) (ticket : Ticket) : Option (Future Payload) := do
  o.futures[← ticket.future?]?

def resolve (o : Orchestrator) (number : Nat) (value : Payload) :
    Except JobError Orchestrator :=
  match o.futures[number]? with
  | none => .error .abandoned
  | some future => do
    let future ← future.resolve value
    return { o with futures := o.futures.set number future }

/-! ## The loop -/

/-- Publishes the oldest waiting job.  If that fails nothing will resolve its future. -/
def dispatch : Move Orchestrator := fun o b =>
  match o.queue with
  | [] => { state := o, broker := b }
  | job :: rest =>
    let id := job.id.text
    match b.publish job.message with
    | .ok b =>
      { state := { o with queue := rest, dispatched := o.dispatched + 1 }
        broker := b
        events := [.message (.dispatched id (Job.channel id))] }
    | .error e =>
      { state := { o with queue := rest, pending := o.pending.erase id }
        broker := b
        events := [.message (.dispatchFailed id e.message)] }

/-- The identifier that the context of a status message names. -/
def statusId? (status : Message) : Option String := do
  (← status.payload.context.get? Job.idKey).asStr?

/-- Resolves the future that a status message is for. -/
def correlate (o : Orchestrator) (status : Message) : Orchestrator × JobMessage :=
  let ignored (reason : String) : JobMessage := .statusIgnored status.channel reason
  match statusId? status with
  | none => (o, ignored "context has no job_id")
  | some id =>
    match o.pending.get? id with
    | none => (o, ignored "no pending future for this job")
    | some number =>
      let o := { o with pending := o.pending.erase id }
      match o.resolve number status.payload with
      | .ok o => (o, .resolved id)
      | .error _ => (o, ignored "future already resolved")

/-- Takes at most one status message. -/
def collect : Move Orchestrator := fun o b =>
  match b.subscribe Job.statusPattern with
  | .error _ => { state := o, broker := b }
  | .ok subscription =>
    match subscription.next? b with
    | none => { state := o, broker := b }
    | some (status, b) =>
      let (o, m) := o.correlate status
      { state := o, broker := (b.acknowledge status).2, events := [.message m] }

/-! ## Runs and stops -/

def beginRun : Move Orchestrator := fun o b =>
  match o.run with
  | .idle => { state := { o with run := .joining }, broker := b.connect }
  | _ => Move.stay o b

/-- The run notes its connection and enters the loop. -/
def noteConnection : Move Orchestrator := fun o b =>
  match o.run with
  | .joining =>
    { state := { o with run := .looping, connected := true }
      broker := b
      events := [.message (.orchestratorStarted Broker.name o.settings.queueCapacity)] }
  | _ => Move.stay o b

/-- The run sees the signal and leaves the loop. -/
def leaveLoop : Move Orchestrator := fun o b =>
  if o.run = .looping ∧ o.stopped then
    { state := { o with run := .releasing .taking }, broker := b }
  else Move.stay o b

/-- What is logged when a run ends. -/
def stoppedMessage (o : Orchestrator) : JobMessage :=
  .orchestratorStopped o.dispatched o.pending.size

def endRun (o : Orchestrator) (b : Broker) : Moved Orchestrator :=
  { state := { o with run := .idle }, broker := b, events := [.message o.stoppedMessage] }

def releaseRun : Move Orchestrator := fun o b =>
  match o.run with
  | .releasing .taking =>
    if o.connected then
      { state := { o with connected := false, run := .releasing .closing }, broker := b }
    else o.endRun b
  | .releasing .closing => o.endRun b.close
  | _ => Move.stay o b

def signalStop (o : Orchestrator) : Orchestrator := { o with stopped := true }

/-- A call to stop begins with the signal. -/
def beginStop (o : Orchestrator) : Orchestrator :=
  { o.signalStop with stopCalls := o.stopCalls ++ [.taking] }

/-- A stop call in progress goes on with its release. -/
def releaseStop (call : Nat) : Move Orchestrator := fun o b =>
  match o.stopCalls[call]? with
  | some .taking =>
    if o.connected then
      { state := { o with connected := false, stopCalls := o.stopCalls.set call .closing }
        broker := b }
    else { state := { o with stopCalls := o.stopCalls.eraseIdx call }, broker := b }
  | some .closing =>
    { state := { o with stopCalls := o.stopCalls.eraseIdx call }, broker := b.close }
  | none => Move.stay o b

/-- What the run does next. -/
def turn : Move Orchestrator := fun o b =>
  match o.run with
  | .idle => Move.stay o b
  | .joining => noteConnection o b
  | .looping => if o.stopped then leaveLoop o b else (Move.andThen dispatch collect) o b
  | .releasing _ => releaseRun o b

/-- Whether the run waits for something to happen. -/
def isQuiet (o : Orchestrator) (b : Broker) : Bool :=
  match o.run with
  | .idle => true
  | .looping =>
    !o.stopped && o.queue.isEmpty &&
      (match b.subscribe Job.statusPattern with
        | .ok subscription => (subscription.next? b).isNone
        | .error _ => true)
  | _ => false

end Orchestrator
end Dataflow
