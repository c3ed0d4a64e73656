/-
The life of every job, as a ledger beside a cluster.

A `Ledger` lists the jobs that were taken in, in the order of their intake, each with
the one stage it is in.  It is no part of a cluster: a cluster keeps queues, counters
and messages.  `Ledger.Describes` says what these hold when the jobs are in the stages
that the ledger tells.  A job in a stage moves on by one step of one component, and
`Ledger.Advance` lists these steps; no step leads back, since `Stage.rank` grows.
-/
import Dataflow.Job.Cluster
import Dataflow.Proofs.Channel.Order
import Dataflow.Proofs.Job.Name
import Mathlib.Algebra.GroupWithZero.Nat
import Mathlib.Data.List.Nodup
import Mathlib.Logic.Relation

namespace Dataflow

/-! ## Stages -/

/-- Where a job stands.  Workers and orchestrators are given by number. -/
inductive Stage where
  /-- It waits in the queue of its orchestrator. -/
  | waiting
  /-- The broker refused its message. -/
  | rejected
  /-- Its message waits for a worker. -/
  | requested
  | failed (worker : Nat)
  /-- The message with its result waits for an orchestrator. -/
  | reported (worker : Nat) (result : Payload)
  | collected (worker : Nat) (result : Payload) (orchestrator : Nat)

namespace Stage

inductive Next : Stage → Stage → Prop
  | reject : Next .waiting .rejected
  | request : Next .waiting .requested
  | fail (worker : Nat) : Next .requested (.failed worker)
  | report (worker : Nat) (result : Payload) : Next .requested (.reported worker result)
  | collect (worker : Nat) (result : Payload) (orchestrator : Nat) :
      Next (.reported worker result) (.collected worker result orchestrator)

/-- One stage comes before another one or is the same. -/
def Leads : Stage → Stage → Prop := Relation.ReflTransGen Next

def rank : Stage → Nat
  | waiting => 0
  | rejected => 1
  | requested => 1
  | failed _ => 2
  | reported _ _ => 2
  | collected _ _ _ => 3

theorem Next.rank_lt {s t : Stage} (h : Next s t) : s.rank < t.rank := by
  cases h <;> simp [rank]

theorem Leads.rank_le {s t : Stage} (h : Leads s t) : s.rank ≤ t.rank := by
  induction h with
  | refl => exact Nat.le_refl _
  | tail _ hnext ih => exact Nat.le_trans ih (Nat.le_of_lt hnext.rank_lt)

/-- No job returns to an earlier stage. -/
theorem Leads.antisymm {s t : Stage} (hst : Leads s t) (hts : Leads t s) : s = t := by
  rcases Relation.ReflTransGen.cases_head hst with h | ⟨u, hnext, hut⟩
  · exact h
  · have hlt := hnext.rank_lt
    have hle := Leads.rank_le hut
    have hle' := Leads.rank_le hts
    omega

theorem Leads.of_collected {w i : Nat} {q : Payload} {t : Stage}
    (h : Leads (.collected w q i) t) : t = .collected w q i := by
  rcases Relation.ReflTransGen.cases_head h with h | ⟨u, hnext, -⟩
  · exact h.symm
  · cases hnext

def isWaiting : Stage → Bool
  | waiting => true
  | _ => false

/-- The broker accepted the message of the job. -/
def isDispatched : Stage → Bool
  | waiting => false
  | rejected => false
  | _ => true

def isRequested : Stage → Bool
  | requested => true
  | _ => false

def isFailedBy (w : Nat) : Stage → Bool
  | failed v => v = w
  | _ => false

def isCompletedBy (w : Nat) : Stage → Bool
  | reported v _ => v = w
  | collected v _ _ => v = w
  | _ => false

def isReported : Stage → Bool
  | reported _ _ => true
  | _ => false

def isCollected : Stage → Bool
  | collected _ _ _ => true
  | _ => false

def worker? : Stage → Option Nat
  | failed w => some w
  | reported w _ => some w
  | collected w _ _ => some w
  | _ => none

def isHandled (s : Stage) : Bool := s.worker?.isSome

def result? : Stage → Option Payload
  | reported _ q => some q
  | collected _ q _ => some q
  | _ => none

/-- Whether an orchestrator still waits for a job that it took in. -/
def isPendingAt (i : Nat) : Stage → Bool
  | rejected => false
  | collected _ _ j => j ≠ i
  | _ => true

/-- The result that an orchestrator collected itself. -/
def resultAt? (i : Nat) : Stage → Option Payload
  | collected _ q j => if j = i then some q else none
  | _ => none

theorem eq_of_resultAt? {s : Stage} {i : Nat} {q : Payload} (h : s.resultAt? i = some q) :
    ∃ w, s = .collected w q i := by
  unfold resultAt? at h
  split at h
  · split at h
    · rename_i w _ j hj
      cases h
      exact ⟨w, by rw [hj]⟩
    · cases h
  · cases h

end Stage

/-! ## Ledgers -/

structure Entry where
  orchestrator : Nat
  job : Job
  /-- The number of the job's future at its orchestrator. -/
  future? : Option Nat
  stage : Stage

namespace Entry

def at_ (e : Entry) (stage : Stage) : Entry := { e with stage }

/-- The message that asks for the job, as the broker holds it. -/
def request (e : Entry) : Message := { e.job.message with awaitsAck := true }

/-- The message that reports a result, as the broker holds it. -/
def report (e : Entry) (q : Payload) : Message :=
  { Job.status e.job.id.text q with awaitsAck := true }

theorem request_channel (e : Entry) : e.request.channel = Job.channel e.job.id.text := rfl

theorem report_channel (e : Entry) (q : Payload) :
    (e.report q).channel = Job.statusChannel e.job.id.text := rfl

/-- The message that stands for the job on the broker. -/
def message? (e : Entry) : Option Message :=
  match e.stage with
  | .requested => some e.request
  | .reported _ q => some (e.report q)
  | _ => none

def answer? (e : Entry) : Option Payload :=
  (e.stage.resultAt? e.orchestrator).map fun q => (e.report q).payload

/-- The later entry is about the same job, which has not gone back. -/
structure Precedes (e e' : Entry) : Prop where
  orchestrator : e'.orchestrator = e.orchestrator
  job : e'.job = e.job
  future? : e'.future? = e.future?
  stage : e.stage.Leads e'.stage

end Entry

namespace Entry.Precedes

theorem refl (e : Entry) : e.Precedes e := ⟨rfl, rfl, rfl, Relation.ReflTransGen.refl⟩

theorem trans {a b c : Entry} (hab : a.Precedes b) (hbc : b.Precedes c) : a.Precedes c where
  orchestrator := hbc.orchestrator.trans hab.orchestrator
  job := hbc.job.trans hab.job
  future? := hbc.future?.trans hab.future?
  stage := Relation.ReflTransGen.trans hab.stage hbc.stage

theorem at_ {e : Entry} {stage : Stage} (h : e.stage.Next stage) : e.Precedes (e.at_ stage) :=
  ⟨rfl, rfl, rfl, Relation.ReflTransGen.single h⟩

theorem answer? {e e' : Entry} (h : e.Precedes e') {r : Payload} (hr : e.answer? = some r) :
    e'.answer? = some r := by
  obtain ⟨q, hq, rfl⟩ := Option.map_eq_some_iff.mp hr
  obtain ⟨w, hstage⟩ := Stage.eq_of_resultAt? hq
  have hlater : e'.stage = e.stage := by
    rw [hstage]
    exact Stage.Leads.of_collected (hstage ▸ h.stage)
  have hreport : e'.report q = e.report q := by
    rw [Entry.report, h.job, Entry.report]
  rw [Entry.answer?, hlater, h.orchestrator, hq, Option.map_some, hreport]

end Entry.Precedes

theorem Entry.answer?_eq_some {e : Entry} {r : Payload} (h : e.answer? = some r) :
    ∃ q, e.stage.result? = some q ∧ (e.report q).payload = r := by
  obtain ⟨q, hq, hr⟩ := Option.map_eq_some_iff.mp h
  obtain ⟨w, hstage⟩ := Stage.eq_of_resultAt? hq
  exact ⟨q, by rw [hstage]; rfl, hr⟩

abbrev Ledger := List Entry

/-- Running the pipeline of a job ends with a result. -/
def Workbench.Yields (bench : Workbench) (job : Job) (result : Payload) : Prop :=
  ∃ p, Pipeline.ofSpec bench.registry bench.load job.pipeline = .ok p ∧
    (p.process bench.filter bench.watch job.payload).1.result = .ok result

namespace Cluster

/-- Whether an action takes a job in or moves one on. -/
def advances (c : Cluster) : ClusterAction → Bool
  | .enqueue i job wantFuture => (c.enqueue i job wantFuture).toBool
  | .dispatch i => c.orchestrators[i]?.any fun o => !o.queue.isEmpty
  | .handle w => c.workers[w]?.isSome && (c.broker.take? Job.requests).isSome
  | .collect i => c.orchestrators[i]?.isSome && c.broker.isConnected &&
      (c.broker.take? Job.reports).isSome
  | _ => false

end Cluster

namespace Ledger

/-- How an action of a cluster takes a job in or moves one on. -/
inductive Advance (bench : Workbench) (c : Cluster) : ClusterAction → Ledger → Ledger → Prop
  | enqueue (l : Ledger) (i : Nat) (job : Job) (wantFuture : Bool) (ticket : Ticket)
      (c' : Cluster) (h : c.enqueue i job wantFuture = .ok (ticket, c')) :
      Advance bench c (.enqueue i job wantFuture) l (l ++ [⟨i, job, ticket.future?, .waiting⟩])
  | reject (before after : Ledger) (e : Entry) (error : TransportError) (h : e.stage = .waiting)
      (hpublish : c.broker.publish e.job.message = .error error) :
      Advance bench c (.dispatch e.orchestrator) (before ++ e :: after)
        (before ++ e.at_ .rejected :: after)
  | request (before after : Ledger) (e : Entry) (b : Broker) (h : e.stage = .waiting)
      (hpublish : c.broker.publish e.job.message = .ok b) :
      Advance bench c (.dispatch e.orchestrator) (before ++ e :: after)
        (before ++ e.at_ .requested :: after)
  | fail (before after : Ledger) (e : Entry) (w : Nat) (b : Broker) (h : e.stage = .requested)
      (htake : c.broker.take? Job.requests = some (e.request, b)) :
      Advance bench c (.handle w) (before ++ e :: after) (before ++ e.at_ (.failed w) :: after)
  | report (before after : Ledger) (e : Entry) (w : Nat) (q : Payload) (b : Broker)
      (h : e.stage = .requested)
      (htake : c.broker.take? Job.requests = some (e.request, b))
      (hq : bench.Yields e.job q) :
      Advance bench c (.handle w) (before ++ e :: after)
        (before ++ e.at_ (.reported w q) :: after)
  | collect (before after : Ledger) (e : Entry) (w : Nat) (q : Payload) (i : Nat) (b : Broker)
      (h : e.stage = .reported w q)
      (htake : c.broker.take? Job.reports =
        some (e.report q, b)) :
      Advance bench c (.collect i) (before ++ e :: after)
        (before ++ e.at_ (.collected w q i) :: after)

structure Step (bench : Workbench) (c : Cluster) (a : ClusterAction) (l l' : Ledger) : Prop where
  advance : c.advances a = true → Advance bench c a l l'
  rest : c.advances a = false → l' = l

namespace Step

variable {bench : Workbench} {c : Cluster} {a : ClusterAction} {l l' : Ledger}

theorem of_rest (h : c.advances a = false) : Step bench c a l l where
  advance h' := by rw [h] at h'; cases h'
  rest _ := rfl

theorem of_advance (h : c.advances a = true) (hadvance : Advance bench c a l l') :
    Step bench c a l l' where
  advance _ := hadvance
  rest h' := by rw [h] at h'; cases h'

end Step

/-! ## What a cluster holds -/

/-- The futures of an orchestrator, and those of them that are pending. -/
structure Tickets (l : Ledger) (i : Nat) (futures : List (Future Payload))
    (pending : KeyMap Nat) : Prop where
  /-- Futures are numbered in the order of intake. -/
  numbered : (l.filter (·.orchestrator = i)).filterMap (·.future?) = List.range futures.length
  pending : ∀ id n, pending.get? id = some n ↔
    ∃ e ∈ l, e.orchestrator = i ∧ e.job.id.text = id ∧ e.future? = some n ∧
      e.stage.isPendingAt i = true
  answers : ∀ e ∈ l, e.orchestrator = i → ∀ n, e.future? = some n →
    futures[n]? = some { value? := e.answer? }

/-- What an orchestrator holds of the jobs that it took in. -/
structure Intake (l : Ledger) (i : Nat) (o : Orchestrator) : Prop where
  queue : o.queue =
    (l.filter fun e => e.orchestrator = i ∧ e.stage.isWaiting = true).map (·.job)
  dispatched : o.dispatched =
    l.countP fun e => e.orchestrator = i ∧ e.stage.isDispatched = true
  tickets : l.Tickets i o.futures o.pending

structure Work (l : Ledger) (w : Nat) (worker : Worker) : Prop where
  completed : worker.completed = l.countP (·.stage.isCompletedBy w)
  failed : worker.failed = l.countP (·.stage.isFailedBy w)

structure Traffic (l : Ledger) (b : Broker) : Prop where
  messages : ∃ queued, b.Holds queued ∧
    (queued.map (·.message)).Perm (l.filterMap Entry.message?)
  acknowledged : b.acknowledged =
    l.countP (·.stage.isHandled) + l.countP (·.stage.isCollected)

/-- A cluster is in the state that the ledger tells. -/
structure Describes (l : Ledger) (c : Cluster) : Prop where
  ids : (l.map (·.job.id)).Nodup
  orchestrator : ∀ e ∈ l, e.orchestrator < c.orchestrators.length
  worker : ∀ e ∈ l, ∀ w, e.stage.worker? = some w → w < c.workers.length
  intake : ∀ (i : Nat) (o : Orchestrator), c.orchestrators[i]? = some o → l.Intake i o
  work : ∀ (w : Nat) (worker : Worker), c.workers[w]? = some worker → l.Work w worker
  traffic : l.Traffic c.broker

end Ledger
end Dataflow
