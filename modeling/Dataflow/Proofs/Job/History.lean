/-
Every run of a cluster has a history of ledgers.

`Describes.act` puts the steps together: whatever a component does next, the ledger
follows.  A run that starts with new components and an empty broker therefore has a
`History`, a ledger for every moment, each of which describes the cluster and comes
from the one before it by `Ledger.Step`.  Nobody else may publish, and no identifier
may be used for two jobs.
-/
import Dataflow.Proofs.Job.Delivery
import Dataflow.Proofs.Job.Intake

namespace Dataflow

/-! ## Steps that concern no job -/

/-- A step that leaves alone what an orchestrator and the broker hold of jobs. -/
structure Orchestrator.Quiet (move : Move Orchestrator) : Prop where
  queue : ∀ o b, (move o b).state.queue = o.queue
  dispatched : ∀ o b, (move o b).state.dispatched = o.dispatched
  futures : ∀ o b, (move o b).state.futures = o.futures
  pending : ∀ o b, (move o b).state.pending = o.pending
  channels : ∀ o b, (move o b).broker.channels = b.channels
  nextSequence : ∀ o b, (move o b).broker.nextSequence = b.nextSequence
  acknowledged : ∀ o b, (move o b).broker.acknowledged = b.acknowledged

namespace Orchestrator

theorem quiet_beginRun : Quiet beginRun := by
  constructor
  all_goals
    intro o b
    unfold beginRun
    split <;> rfl

theorem quiet_noteConnection : Quiet noteConnection := by
  constructor
  all_goals
    intro o b
    unfold noteConnection
    split <;> rfl

theorem quiet_leaveLoop : Quiet leaveLoop := by
  constructor
  all_goals
    intro o b
    unfold leaveLoop
    split <;> rfl

theorem quiet_releaseRun : Quiet releaseRun := by
  constructor
  all_goals
    intro o b
    unfold releaseRun
    split
    · split <;> rfl
    · rfl
    · rfl

theorem quiet_releaseStop (call : Nat) : Quiet (releaseStop call) := by
  constructor
  all_goals
    intro o b
    unfold releaseStop
    split
    · split <;> rfl
    · rfl
    · rfl

end Orchestrator

/-- A step that leaves alone what a worker has counted and what the broker holds of jobs. -/
structure Worker.Quiet (move : Move Worker) : Prop where
  completed : ∀ w b, (move w b).state.completed = w.completed
  failed : ∀ w b, (move w b).state.failed = w.failed
  channels : ∀ w b, (move w b).broker.channels = b.channels
  nextSequence : ∀ w b, (move w b).broker.nextSequence = b.nextSequence
  acknowledged : ∀ w b, (move w b).broker.acknowledged = b.acknowledged

namespace Worker

theorem quiet_beginRun : Quiet beginRun := by
  constructor
  all_goals
    intro w b
    unfold beginRun
    split <;> rfl

theorem quiet_leaveLoop (result : Except JobError Unit) : Quiet (leaveLoop result) := by
  constructor
  all_goals
    intro w b
    unfold leaveLoop
    split <;> rfl

theorem quiet_endRun : Quiet endRun := by
  constructor
  all_goals
    intro w b
    unfold endRun
    split <;> rfl

end Worker

namespace Ledger

variable {l : Ledger} {c : Cluster}

theorem Describes.quiet_orchestrator (h : l.Describes c) (i : Nat) {move : Move Orchestrator}
    (hmove : Orchestrator.Quiet move) : l.Describes (c.atOrchestrator i move) := by
  refine h.atOrchestrator_quiet (fun o _ hintake => ?_) (fun o _ => ?_)
  · exact hintake.congr (hmove.queue o _) (hmove.dispatched o _) (hmove.futures o _)
      (hmove.pending o _)
  · exact h.traffic.congr (hmove.channels o _) (hmove.nextSequence o _) (hmove.acknowledged o _)

theorem Describes.quiet_worker (h : l.Describes c) (w : Nat) {move : Move Worker}
    (hmove : Worker.Quiet move) : l.Describes (c.atWorker w move) := by
  refine h.atWorker_quiet (fun worker _ hwork => ?_) (fun worker _ => ?_)
  · exact hwork.congr (hmove.completed worker _) (hmove.failed worker _)
  · exact h.traffic.congr (hmove.channels worker _) (hmove.nextSequence worker _)
      (hmove.acknowledged worker _)

theorem Describes.modify_orchestrator (h : l.Describes c) (i : Nat)
    {f : Orchestrator → Orchestrator}
    (hf : ∀ o, (f o).queue = o.queue ∧ (f o).dispatched = o.dispatched ∧
      (f o).futures = o.futures ∧ (f o).pending = o.pending) :
    l.Describes { c with orchestrators := c.orchestrators.modify i f } := by
  constructor
  · exact h.ids
  · intro x hx
    show _ < (c.orchestrators.modify i f).length
    rw [List.length_modify]
    exact h.orchestrator x hx
  · exact h.worker
  · intro j o hj
    rw [List.getElem?_modify] at hj
    obtain ⟨o', ho', rfl⟩ := Option.map_eq_some_iff.mp hj
    have hintake := h.intake j o' ho'
    split
    · obtain ⟨hqueue, hdispatched, hfutures, hpending⟩ := hf o'
      exact hintake.congr hqueue hdispatched hfutures hpending
    · exact hintake
  · exact h.work
  · exact h.traffic

theorem Describes.modify_worker (h : l.Describes c) (i : Nat) {f : Worker → Worker}
    (hf : ∀ w, (f w).completed = w.completed ∧ (f w).failed = w.failed) :
    l.Describes { c with workers := c.workers.modify i f } := by
  constructor
  · exact h.ids
  · exact h.orchestrator
  · intro x hx w hw
    show _ < (c.workers.modify i f).length
    rw [List.length_modify]
    exact h.worker x hx w hw
  · exact h.intake
  · intro w worker hw
    rw [List.getElem?_modify] at hw
    obtain ⟨worker', hworker', rfl⟩ := Option.map_eq_some_iff.mp hw
    have hwork := h.work w worker' hworker'
    split
    · exact hwork.congr (hf worker').1 (hf worker').2
    · exact hwork
  · exact h.traffic

theorem Describes.with_broker (h : l.Describes c) {b : Broker} (hb : l.Traffic b) :
    l.Describes { c with broker := b } where
  ids := h.ids
  orchestrator := h.orchestrator
  worker := h.worker
  intake := h.intake
  work := h.work
  traffic := hb

/-! ## Any step -/

theorem Describes.act_enqueue (h : l.Describes c) (bench : Workbench) (i : Nat) (job : Job)
    (wantFuture : Bool) (hfresh : job.id ∉ l.map (·.job.id)) :
    ∃ l', Step bench c (.enqueue i job wantFuture) l l' ∧
      l'.Describes (Cluster.act bench (.enqueue i job wantFuture) c) := by
  cases henqueue : c.enqueue i job wantFuture with
  | error e =>
    have hrest : c.advances (.enqueue i job wantFuture) = false := by
      simp [Cluster.advances, henqueue, Except.toBool]
    refine ⟨l, .of_rest hrest, ?_⟩
    rw [Cluster.act, henqueue]
    exact h
  | ok answer =>
    obtain ⟨ticket, c'⟩ := answer
    have hadvance : c.advances (.enqueue i job wantFuture) = true := by
      simp [Cluster.advances, henqueue, Except.toBool]
    refine ⟨l ++ [⟨i, job, ticket.future?, .waiting⟩],
      .of_advance hadvance (.enqueue l i job wantFuture ticket c' henqueue), ?_⟩
    rw [Cluster.act, henqueue]
    exact h.enqueue hfresh henqueue

/-- The ledger follows every step of a cluster. -/
theorem Describes.act (h : l.Describes c) (bench : Workbench) (a : ClusterAction)
    (hpublish : ∀ m, a ≠ .publish m)
    (hfresh : ∀ i job wantFuture, a = .enqueue i job wantFuture → job.id ∉ l.map (·.job.id)) :
    ∃ l', Step bench c a l l' ∧ l'.Describes (Cluster.act bench a c) := by
  cases a with
  | enqueue i job wantFuture => exact h.act_enqueue bench i job wantFuture (hfresh _ _ _ rfl)
  | dispatch i => exact h.dispatch bench i
  | collect i => exact h.collect bench i
  | handle w => exact h.handle bench w
  | beginRun i =>
    exact ⟨l, .of_rest rfl, h.quiet_orchestrator i Orchestrator.quiet_beginRun⟩
  | noteConnection i =>
    exact ⟨l, .of_rest rfl, h.quiet_orchestrator i Orchestrator.quiet_noteConnection⟩
  | leaveLoop i =>
    exact ⟨l, .of_rest rfl, h.quiet_orchestrator i Orchestrator.quiet_leaveLoop⟩
  | releaseRun i =>
    exact ⟨l, .of_rest rfl, h.quiet_orchestrator i Orchestrator.quiet_releaseRun⟩
  | signalStop i =>
    exact ⟨l, .of_rest rfl, h.modify_orchestrator i fun _ => ⟨rfl, rfl, rfl, rfl⟩⟩
  | beginStop i =>
    exact ⟨l, .of_rest rfl, h.modify_orchestrator i fun _ => ⟨rfl, rfl, rfl, rfl⟩⟩
  | releaseStop i call =>
    exact ⟨l, .of_rest rfl, h.quiet_orchestrator i (Orchestrator.quiet_releaseStop call)⟩
  | beginWork w => exact ⟨l, .of_rest rfl, h.quiet_worker w Worker.quiet_beginRun⟩
  | leaveWork w result =>
    exact ⟨l, .of_rest rfl, h.quiet_worker w (Worker.quiet_leaveLoop result)⟩
  | endWork w => exact ⟨l, .of_rest rfl, h.quiet_worker w Worker.quiet_endRun⟩
  | signalWorker w =>
    exact ⟨l, .of_rest rfl, h.modify_worker w fun _ => ⟨rfl, rfl⟩⟩
  | connect => exact ⟨l, .of_rest rfl, h.with_broker h.traffic.connect⟩
  | close => exact ⟨l, .of_rest rfl, h.with_broker h.traffic.close⟩
  | publish m => exact absurd rfl (hpublish m)

end Ledger

/-! ## Runs -/

namespace Cluster

/-- New components around an empty broker. -/
def fresh (settings : List OrchestratorSettings) (crew : List (String × ExecutorKind)) :
    Cluster where
  orchestrators := settings.map fun settings => { settings }
  workers := crew.map fun (id, executor) => { id, executor }

/-- Steps one after another, each with what its worker, if it is one's, works with. -/
def perform (c : Cluster) (steps : List (Workbench × ClusterAction)) : Cluster :=
  steps.foldl (fun c s => act s.1 s.2 c) c

/-- The cluster behind the first `t` steps. -/
def moment (c : Cluster) (steps : List (Workbench × ClusterAction)) (t : Nat) : Cluster :=
  c.perform (steps.take t)

theorem moment_of_some {c : Cluster} {steps : List (Workbench × ClusterAction)} {t : Nat}
    {s : Workbench × ClusterAction} (h : steps[t]? = some s) :
    c.moment steps (t + 1) = act s.1 s.2 (c.moment steps t) := by
  unfold moment perform
  rw [List.take_add_one, h, Option.toList_some, List.foldl_append]
  rfl

theorem moment_of_none {c : Cluster} {steps : List (Workbench × ClusterAction)} {t : Nat}
    (h : steps[t]? = none) : c.moment steps (t + 1) = c.moment steps t := by
  unfold moment perform
  rw [List.take_add_one, h, Option.toList_none, List.append_nil]

/-- The identifiers of the jobs that are to be taken in, in order. -/
def jobIds (steps : List (Workbench × ClusterAction)) : List JobId :=
  steps.filterMap fun s =>
    match s.2 with
    | .enqueue _ job _ => some job.id
    | _ => none

/-- Only the components publish, and every job has an identifier of its own. -/
structure Closed (steps : List (Workbench × ClusterAction)) : Prop where
  publish : ∀ s ∈ steps, ∀ m, s.2 ≠ .publish m
  ids : (jobIds steps).Nodup

/-- A job with an empty pipeline, in whose context another identifier stands already. -/
def errand : Job where
  id := default
  pipeline := .nodes []
  payload := { context := KeyMap.empty.insert Job.idKey (.str "another") }

/-- A bench with no processors and no pipeline files. -/
def bareBench : Workbench := { registry := .empty, load := fun path => .error (.invalid path) }

/-- The steps that bring a job to its end. -/
def errandSteps : List (Workbench × ClusterAction) :=
  [.connect, .enqueue 0 errand true, .dispatch 0, .handle 0, .collect 0].map (bareBench, ·)

theorem closed_of_collector (k : Nat) :
    Closed ([.connect, .enqueue 0 errand true, .dispatch 0, .handle 0, .collect k].map
      (bareBench, ·)) := by
  constructor
  · intro s hs m
    obtain ⟨a, ha, rfl⟩ := List.mem_map.mp hs
    simp only [List.mem_cons, List.not_mem_nil, or_false] at ha
    rcases ha with rfl | rfl | rfl | rfl | rfl
    all_goals exact nofun
  · exact List.pairwise_singleton _ errand.id

theorem closed_errandSteps : Closed errandSteps := closed_of_collector 0

end Cluster

/-- A ledger for every moment of a run. -/
structure History (c : Cluster) (steps : List (Workbench × ClusterAction))
    (history : Nat → Ledger) : Prop where
  start : history 0 = []
  describes : ∀ t, t ≤ steps.length → (history t).Describes (c.moment steps t)
  step : ∀ (t : Nat) (s : Workbench × ClusterAction), steps[t]? = some s →
    Ledger.Step s.1 (c.moment steps t) s.2 (history t) (history (t + 1))

namespace Ledger

variable {settings : List OrchestratorSettings} {crew : List (String × ExecutorKind)}

theorem describes_fresh : Describes [] (Cluster.fresh settings crew) := by
  constructor
  · exact List.nodup_nil
  · exact fun x hx => absurd hx List.not_mem_nil
  · exact fun x hx => absurd hx List.not_mem_nil
  · intro i o ho
    obtain ⟨s, -, rfl⟩ := List.mem_map.mp (List.mem_of_getElem? ho)
    constructor
    · rfl
    · rfl
    · exact ⟨rfl, fun id n => ⟨nofun, fun ⟨x, hx, _⟩ => absurd hx List.not_mem_nil⟩,
        fun x hx => absurd hx List.not_mem_nil⟩
  · intro w worker hw
    obtain ⟨s, -, rfl⟩ := List.mem_map.mp (List.mem_of_getElem? hw)
    exact ⟨rfl, rfl⟩
  · exact ⟨⟨[], Broker.holds_empty, List.Perm.refl _⟩, rfl⟩

/-- A step that advances adds a waiting job, or one job goes on to a next stage. -/
theorem Advance.shape {bench : Workbench} {c : Cluster} {a : ClusterAction} {l l' : Ledger}
    (h : Advance bench c a l l') :
    (∃ i job wantFuture future?, a = .enqueue i job wantFuture ∧
        l' = l ++ [⟨i, job, future?, .waiting⟩]) ∨
      ∃ before e after stage, l = before ++ e :: after ∧ l' = before ++ e.at_ stage :: after ∧
        e.stage.Next stage := by
  cases h with
  | enqueue l i job wantFuture ticket c' _ => exact .inl ⟨i, job, wantFuture, _, rfl, rfl⟩
  | reject before after e error hstage _ =>
    exact .inr ⟨before, e, after, _, rfl, rfl, hstage ▸ .reject⟩
  | request before after e b hstage _ =>
    exact .inr ⟨before, e, after, _, rfl, rfl, hstage ▸ .request⟩
  | fail before after e w b hstage _ =>
    exact .inr ⟨before, e, after, _, rfl, rfl, hstage ▸ .fail w⟩
  | report before after e w q b hstage _ _ =>
    exact .inr ⟨before, e, after, _, rfl, rfl, hstage ▸ .report w q⟩
  | collect before after e w q i b hstage _ =>
    exact .inr ⟨before, e, after, _, rfl, rfl, hstage ▸ .collect w q i⟩

theorem ids_of_step {bench : Workbench} {c : Cluster} {a : ClusterAction} {l l' : Ledger}
    (h : Step bench c a l l') :
    l'.map (·.job.id) = l.map (·.job.id) ∨
      ∃ i job wantFuture, a = .enqueue i job wantFuture ∧
        l'.map (·.job.id) = l.map (·.job.id) ++ [job.id] := by
  cases hadvance : c.advances a with
  | false =>
    rw [h.rest hadvance]
    exact .inl rfl
  | true =>
    rcases (h.advance hadvance).shape with
      ⟨i, job, wantFuture, future?, ha, rfl⟩ | ⟨before, e, after, stage, rfl, rfl, -⟩
    · exact .inr ⟨i, job, wantFuture, ha, List.map_append⟩
    · exact .inl (map_id_at before after e stage)

theorem exists_history {c : Cluster} {l : Ledger} (h : l.Describes c)
    (steps : List (Workbench × ClusterAction)) (hpublish : ∀ s ∈ steps, ∀ m, s.2 ≠ .publish m)
    (hids : (l.map (·.job.id) ++ Cluster.jobIds steps).Nodup) :
    ∃ history : Nat → Ledger, history 0 = l ∧
      (∀ t, t ≤ steps.length → (history t).Describes (c.moment steps t)) ∧
      ∀ (t : Nat) (s : Workbench × ClusterAction), steps[t]? = some s →
        Step s.1 (c.moment steps t) s.2 (history t) (history (t + 1)) := by
  induction steps generalizing c l with
  | nil =>
    refine ⟨fun _ => l, rfl, fun t _ => ?_, fun t s hs => by simp at hs⟩
    show l.Describes (c.perform (List.take t []))
    rw [List.take_nil]
    exact h
  | cons s rest ih =>
    have hfresh : ∀ i job wantFuture, s.2 = .enqueue i job wantFuture →
        job.id ∉ l.map (·.job.id) := by
      intro i job wantFuture hs hmem
      have hjob : job.id ∈ Cluster.jobIds (s :: rest) := by
        simp [Cluster.jobIds, hs]
      exact (List.nodup_append.mp hids).2.2 _ hmem _ hjob rfl
    obtain ⟨l', hstep, hdescribes⟩ := h.act s.1 s.2 (hpublish s List.mem_cons_self) hfresh
    have hids' : (l'.map (·.job.id) ++ Cluster.jobIds rest).Nodup := by
      rcases ids_of_step hstep with heq | ⟨i, job, wantFuture, hs, heq⟩
      · rw [heq]
        refine hids.sublist ((List.Sublist.refl _).append ?_)
        exact (List.sublist_cons_self s rest).filterMap _
      · rw [heq, List.append_assoc]
        simpa [Cluster.jobIds, List.filterMap_cons, hs] using hids
    obtain ⟨history, hstart, hall, hsteps⟩ :=
      ih hdescribes (fun x hx => hpublish x (List.mem_cons_of_mem _ hx)) hids'
    refine ⟨fun t => if t = 0 then l else history (t - 1), rfl, ?_, ?_⟩
    · intro t ht
      cases t with
      | zero => exact h
      | succ t => exact hall t (Nat.le_of_succ_le_succ ht)
    · intro t x hx
      cases t with
      | zero =>
        cases hx
        rw [← hstart] at hstep
        exact hstep
      | succ t => exact hsteps t x hx

end Ledger

theorem exists_history (settings : List OrchestratorSettings)
    (crew : List (String × ExecutorKind)) {steps : List (Workbench × ClusterAction)}
    (h : Cluster.Closed steps) : ∃ history, History (.fresh settings crew) steps history := by
  obtain ⟨history, hstart, hdescribes, hstep⟩ :=
    Ledger.exists_history Ledger.describes_fresh steps h.publish h.ids
  exact ⟨history, hstart, hdescribes, hstep⟩

/-! ## Entries keep their places -/

namespace Ledger

theorem getElem?_exchange {before after : Ledger} {e x : Entry} {k : Nat}
    (h : (before ++ e :: after)[k]? = some x) (e' : Entry) :
    (before ++ e' :: after)[k]? = some x ∨
      x = e ∧ k = before.length ∧ (before ++ e' :: after)[k]? = some e' := by
  rcases Nat.lt_trichotomy k before.length with hlt | rfl | hgt
  · rw [List.getElem?_append_left hlt] at h
    rw [List.getElem?_append_left hlt]
    exact .inl h
  · rw [List.getElem?_append_right (Nat.le_refl _), Nat.sub_self] at h ⊢
    cases h
    exact .inr ⟨rfl, rfl, rfl⟩
  · obtain ⟨d, hd⟩ := Nat.exists_eq_add_of_lt hgt
    have hk : k - before.length = d + 1 := by omega
    rw [List.getElem?_append_right (Nat.le_of_lt hgt), hk, List.getElem?_cons_succ] at h
    rw [List.getElem?_append_right (Nat.le_of_lt hgt), hk, List.getElem?_cons_succ]
    exact .inl h

theorem precedes_exchange {before after : Ledger} {e x : Entry} {stage : Stage} {k : Nat}
    (h : (before ++ e :: after)[k]? = some x) (hnext : e.stage.Next stage) :
    ∃ x', (before ++ e.at_ stage :: after)[k]? = some x' ∧ x.Precedes x' := by
  rcases getElem?_exchange h (e.at_ stage) with h | ⟨rfl, -, h⟩
  · exact ⟨x, h, .refl x⟩
  · exact ⟨_, h, .at_ hnext⟩

theorem Advance.next {bench : Workbench} {c : Cluster} {a : ClusterAction} {l l' : Ledger}
    (h : Advance bench c a l l') {k : Nat} {x : Entry} (hx : l[k]? = some x) :
    ∃ x', l'[k]? = some x' ∧ x.Precedes x' := by
  rcases h.shape with
    ⟨i, job, wantFuture, future?, -, rfl⟩ | ⟨before, e, after, stage, rfl, rfl, hnext⟩
  · refine ⟨x, ?_, .refl x⟩
    rw [List.getElem?_append_left (List.getElem?_eq_some_iff.mp hx).1]
    exact hx
  · exact precedes_exchange hx hnext

theorem Step.precedes {bench : Workbench} {c : Cluster} {a : ClusterAction} {l l' : Ledger}
    (h : Step bench c a l l') {k : Nat} {x : Entry} (hx : l[k]? = some x) :
    ∃ x', l'[k]? = some x' ∧ x.Precedes x' := by
  cases hadvance : c.advances a with
  | false =>
    rw [h.rest hadvance]
    exact ⟨x, hx, .refl x⟩
  | true => exact (h.advance hadvance).next hx

end Ledger

/-- Every job stays in the ledger, at its place, and never goes back to an earlier stage. -/
theorem History.precedes {c : Cluster} {steps : List (Workbench × ClusterAction)}
    {history : Nat → Ledger} (h : History c steps history) {t u : Nat} (htu : t ≤ u)
    (hu : u ≤ steps.length) {k : Nat} {e : Entry} (he : (history t)[k]? = some e) :
    ∃ e', (history u)[k]? = some e' ∧ e.Precedes e' := by
  induction htu with
  | refl => exact ⟨e, he, .refl e⟩
  | @step u _ ih =>
    obtain ⟨e', he', hprecedes⟩ := ih (Nat.le_of_succ_le hu)
    obtain ⟨e'', he'', hprecedes'⟩ :=
      (h.step u steps[u] (List.getElem?_eq_getElem hu)).precedes he'
    exact ⟨e'', he'', hprecedes.trans hprecedes'⟩

end Dataflow
