/-
Who collects the result of a job.

All orchestrators take their results through one wildcard subscription, so the message
with the result of a job may be taken by any of them.  It resolves the future of the
job if its own orchestrator takes it.  Another orchestrator has no future for the job,
and as a message is gone when it was taken, the future then stays unresolved for good.
-/
import Dataflow.Proofs.Job.Correlation
import Dataflow.Proofs.Job.Conservation

namespace Dataflow

theorem Entry.answer?_of_collected {e : Entry} {w k : Nat} {q : Payload}
    (h : e.stage = .collected w q k) :
    e.answer? = if k = e.orchestrator then some (e.report q).payload else none := by
  rw [answer?, h, Stage.resultAt?]
  split <;> rfl

namespace Ledger

/-- A message is collected for an entry that has reported it. -/
theorem Step.of_collect {bench : Workbench} {c : Cluster} {l l' : Ledger} {k : Nat} {m : Message}
    (h : Step bench c (.collect k) l l') (htaken : c.taken? (.collect k) = some m) :
    ∃ e ∈ l, ∃ w q, e.stage = .reported w q ∧ m = e.report q ∧
      e.at_ (.collected w q k) ∈ l' := by
  have hadvance : c.advances (.collect k) = true := by
    by_contra hrest
    rw [Cluster.taken?_eq_none (Bool.eq_false_iff.mpr hrest)] at htaken
    cases htaken
  cases h.advance hadvance with
  | collect before after e w q _ b hstage htake =>
    rw [taken?_collect hadvance htake] at htaken
    cases htaken
    exact ⟨e, mem_exchange.mpr (.inl rfl), w, q, hstage, rfl, mem_exchange.mpr (.inl rfl)⟩

theorem Describes.eq_of_id {l : Ledger} {c : Cluster} (h : l.Describes c) {x y : Entry}
    (hx : x ∈ l) (hy : y ∈ l) (hid : x.job.id = y.job.id) : x = y :=
  List.inj_on_of_nodup_map h.ids hx hy hid

end Ledger

namespace History

variable {c : Cluster} {steps : List (Workbench × ClusterAction)} {history : Nat → Ledger}
  {bench : Workbench} {t n k : Nat} {e : Entry} {m : Message}

/-- The entry whose result is collected, before and after. -/
theorem collected (h : History c steps history) (hstep : steps[t]? = some (bench, .collect k))
    (he : (history t)[n]? = some e) (htaken : (c.moment steps t).taken? (.collect k) = some m)
    (hchannel : m.channel = Job.statusChannel e.job.id.text) :
    ∃ w q, e.stage = .reported w q ∧ m = e.report q ∧
      (history (t + 1))[n]? = some (e.at_ (.collected w q k)) := by
  have hlt : t < steps.length := (List.getElem?_eq_some_iff.mp hstep).1
  have hnext := h.step t _ hstep
  obtain ⟨x, hx, w, q, hstage, rfl, hlater⟩ := hnext.of_collect htaken
  -- The channel of the message tells the entry that was moved on.
  have hid : x.job.id = e.job.id :=
    JobId.text_injective (Job.statusChannel_injective hchannel)
  have hxe : x = e :=
    (h.describes t (Nat.le_of_lt hlt)).eq_of_id hx (List.mem_of_getElem? he) hid
  subst hxe
  obtain ⟨x', hx', hprecedes⟩ := hnext.precedes he
  have hid' : x'.job.id = (x.at_ (.collected w q k)).job.id := congrArg Job.id hprecedes.job
  have heq := (h.describes (t + 1) hlt).eq_of_id (List.mem_of_getElem? hx') hlater hid'
  exact ⟨w, q, hstage, rfl, heq ▸ hx'⟩

end History

namespace Cluster

theorem length_atOrchestrator (i : Nat) (move : Move Orchestrator) (c : Cluster) :
    (c.atOrchestrator i move).orchestrators.length = c.orchestrators.length := by
  unfold atOrchestrator
  split
  · rfl
  · exact List.length_set

theorem orchestrators_atWorker (w : Nat) (move : Move Worker) (c : Cluster) :
    (c.atWorker w move).orchestrators = c.orchestrators := by
  unfold atWorker
  split <;> rfl

/-- No step adds an orchestrator or takes one away. -/
theorem length_orchestrators_act (bench : Workbench) (a : ClusterAction) (c : Cluster) :
    (act bench a c).orchestrators.length = c.orchestrators.length := by
  cases a with
  | enqueue i job wantFuture =>
    rw [act]
    split
    · rename_i ticket c' henqueue
      obtain ⟨o, o', -, -, rfl⟩ := enqueue_eq_ok henqueue
      exact List.length_set
    · rfl
  | publish m =>
    rw [act]
    split <;> rfl
  | signalStop i => exact List.length_modify ..
  | beginStop i => exact List.length_modify ..
  | dispatch i => exact length_atOrchestrator i _ c
  | collect i => exact length_atOrchestrator i _ c
  | beginRun i => exact length_atOrchestrator i _ c
  | noteConnection i => exact length_atOrchestrator i _ c
  | leaveLoop i => exact length_atOrchestrator i _ c
  | releaseRun i => exact length_atOrchestrator i _ c
  | releaseStop i call => exact length_atOrchestrator i _ c
  | handle w => exact congrArg List.length (orchestrators_atWorker w _ c)
  | beginWork w => exact congrArg List.length (orchestrators_atWorker w _ c)
  | leaveWork w result => exact congrArg List.length (orchestrators_atWorker w _ c)
  | endWork w => exact congrArg List.length (orchestrators_atWorker w _ c)
  | _ => rfl

theorem length_orchestrators_moment (c : Cluster) (steps : List (Workbench × ClusterAction))
    (t : Nat) : (c.moment steps t).orchestrators.length = c.orchestrators.length := by
  unfold moment perform
  generalize steps.take t = performed
  induction performed generalizing c with
  | nil => rfl
  | cons s rest ih => exact (ih _).trans (length_orchestrators_act s.1 s.2 c)

theorem lt_of_taken?_collect {c : Cluster} {k : Nat} {m : Message}
    (h : c.taken? (.collect k) = some m) : k < c.orchestrators.length := by
  rw [taken?] at h
  split at h
  · rename_i hk
    obtain ⟨o, ho⟩ := Option.isSome_iff_exists.mp (Bool.and_eq_true_iff.mp hk).1
    exact (List.getElem?_eq_some_iff.mp ho).1
  · cases h

/-- As long as the result of a job is not collected its future is unresolved.  The step that
collects it resolves the future, with the payload of the message, if the collecting orchestrator
is the one that took the job in, as it is when there is only one; otherwise no later step resolves
it either. -/
theorem resolved_by_its_orchestrator_only (settings : List OrchestratorSettings)
    (crew : List (String × ExecutorKind)) {steps : List (Workbench × ClusterAction)}
    (hclosed : Closed steps) {start : Nat} {bench : Workbench} {i : Nat} {job : Job}
    (hstep : steps[start]? = some (bench, .enqueue i job true)) {ticket : Ticket} {c' : Cluster}
    (henqueue : ((fresh settings crew).moment steps start).enqueue i job true =
      .ok (ticket, c')) {t : Nat} (hlt : start < t) {bench' : Workbench} {k : Nat}
    (hcollect : steps[t]? = some (bench', .collect k)) {m : Message}
    (htaken : ((fresh settings crew).moment steps t).taken? (.collect k) = some m)
    (hchannel : m.channel = Job.statusChannel job.id.text) :
    (settings.length = 1 → k = i) ∧
      ((fresh settings crew).moment steps t).future? i ticket = some ⟨none⟩ ∧
      ∀ u, t < u → u ≤ steps.length →
        ((fresh settings crew).moment steps u).future? i ticket =
          some ⟨if k = i then some m.payload else none⟩ := by
  obtain ⟨history, h⟩ := exists_history settings crew hclosed
  have ht : t < steps.length := (List.getElem?_eq_some_iff.mp hcollect).1
  obtain ⟨e, he, hprecedes⟩ := h.kept hstep henqueue hlt (Nat.le_of_lt ht)
  have hjob : e.job = job := hprecedes.job
  have horchestrator : e.orchestrator = i := hprecedes.orchestrator
  obtain ⟨w, q, hstage, rfl, hlater⟩ := h.collected hcollect he htaken (hjob ▸ hchannel)
  refine ⟨?_, ?_, ?_⟩
  · intro hsingle
    have hi := (h.describes t (Nat.le_of_lt ht)).orchestrator e (List.mem_of_getElem? he)
    have hk := lt_of_taken?_collect htaken
    rw [length_orchestrators_moment, fresh, List.length_map] at hi hk
    omega
  · rw [h.future?_eq hstep henqueue hlt (Nat.le_of_lt ht), he]
    show some ({ value? := e.answer? } : Future Payload) = _
    rw [Entry.answer?, hstage]
    rfl
  -- A job that was collected stays where it is, whoever collected it.
  · intro u htu hu
    obtain ⟨x, hx, hprecedes'⟩ := h.precedes htu hu hlater
    have hx' : x.stage = .collected w q k := Stage.Leads.of_collected hprecedes'.stage
    have hreport : x.report q = e.report q := by
      rw [Entry.report, hprecedes'.job]
      rfl
    rw [h.future?_eq hstep henqueue (Nat.lt_trans hlt htu) hu, hx]
    have hx'' : x.orchestrator = i := hprecedes'.orchestrator.trans horchestrator
    show some ({ value? := x.answer? } : Future Payload) = _
    rw [Entry.answer?_of_collected hx', hx'', hreport]

set_option maxRecDepth 4000 in
theorem taken?_errand :
    ((fresh [{}] [("worker", .sequential)]).moment errandSteps 4).taken? (.collect 0) =
      some { Job.status errand.id.text errand.payload with awaitsAck := true } := by
  rfl

theorem resolved_by_its_orchestrator_only_of_errand :
    let c := fresh [{}] [("worker", .sequential)]
    let m : Message := { Job.status errand.id.text errand.payload with awaitsAck := true }
    Closed errandSteps ∧ errandSteps[1]? = some (bareBench, .enqueue 0 errand true) ∧
      (∃ c', (c.moment errandSteps 1).enqueue 0 errand true = .ok (⟨errand.id, some 0⟩, c')) ∧
      errandSteps[4]? = some (bareBench, .collect 0) ∧
      (c.moment errandSteps 4).taken? (.collect 0) = some m ∧
      m.channel = Job.statusChannel errand.id.text ∧
      (c.moment errandSteps 4).future? 0 ⟨errand.id, some 0⟩ = some ⟨none⟩ ∧
      (c.moment errandSteps 5).future? 0 ⟨errand.id, some 0⟩ = some ⟨some m.payload⟩ := by
  intro c m
  have hstep : errandSteps[1]? = some (bareBench, .enqueue 0 errand true) := rfl
  have hcollect : errandSteps[4]? = some (bareBench, .collect 0) := rfl
  have hchannel : m.channel = Job.statusChannel errand.id.text := rfl
  have henqueue : ∃ c', (c.moment errandSteps 1).enqueue 0 errand true =
      .ok (⟨errand.id, some 0⟩, c') := ⟨_, rfl⟩
  obtain ⟨c', hc'⟩ := henqueue
  obtain ⟨-, hbefore, hafter⟩ :=
    resolved_by_its_orchestrator_only [{}] [("worker", .sequential)] closed_errandSteps hstep hc'
      (by decide) hcollect taken?_errand hchannel
  exact ⟨closed_errandSteps, hstep, ⟨c', hc'⟩, hcollect, taken?_errand, hchannel, hbefore,
    hafter 5 (by decide) (by decide)⟩

/-- The steps that bring a job to its end, but another orchestrator collects the result. -/
def crossedSteps : List (Workbench × ClusterAction) :=
  [.connect, .enqueue 0 errand true, .dispatch 0, .handle 0, .collect 1].map (bareBench, ·)

theorem closed_crossedSteps : Closed crossedSteps := closed_of_collector 1

set_option maxRecDepth 4000 in
/-- The other orchestrator takes the result away, nothing is left to be collected, and the future
of the job is not resolved. -/
theorem result_lost_to_another_orchestrator :
    Closed crossedSteps ∧ crossedSteps[1]? = some (bareBench, .enqueue 0 errand true) ∧
      (∃ c', ((fresh [{}, {}] [("worker", .sequential)]).moment crossedSteps 1).enqueue 0 errand
        true = .ok (⟨errand.id, some 0⟩, c')) ∧
      crossedSteps[4]? = some (bareBench, .collect 1) ∧
      ((fresh [{}, {}] [("worker", .sequential)]).moment crossedSteps 4).taken? (.collect 1) =
        some { Job.status errand.id.text errand.payload with awaitsAck := true } ∧
      ((fresh [{}, {}] [("worker", .sequential)]).moment crossedSteps 5).broker.size = 0 ∧
      ((fresh [{}, {}] [("worker", .sequential)]).moment crossedSteps 5).future? 0
        ⟨errand.id, some 0⟩ = some ⟨none⟩ := by
  exact ⟨closed_crossedSteps, rfl, ⟨_, rfl⟩, rfl, rfl, rfl, rfl⟩

end Cluster
end Dataflow
