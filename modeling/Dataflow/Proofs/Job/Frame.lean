/-
What stays when one job moves on, and what a step leaves alone.

A step changes the stage of one entry.  Whoever has no part in the step holds what it
held before, and the lemmas here say so for each of the facts of `Ledger.Describes`;
steps that concern no job at all keep the whole of it.
-/
import Dataflow.Proofs.Job.Ledger

namespace Dataflow
namespace Ledger

variable {l before after : Ledger} {e : Entry} {stage : Stage}

/-! ## One entry among others -/

theorem map_id_at (before after : Ledger) (e : Entry) (stage : Stage) :
    (before ++ e.at_ stage :: after).map (·.job.id) = (before ++ e :: after).map (·.job.id) := by
  rw [List.map_append, List.map_append]
  rfl

theorem filter_of_not {α : Type} {p : α → Bool} {before after : List α} {x : α}
    (hx : p x = false) : (before ++ x :: after).filter p = (before ++ after).filter p := by
  rw [List.filter_append, List.filter_append, List.filter_cons_of_neg (by simp [hx])]

theorem filter_exchange {p : Entry → Bool} {e e' : Entry} {β : Type} {f : Entry → β}
    (hp : p e' = p e) (hf : f e' = f e) (before after : Ledger) :
    ((before ++ e' :: after).filter p).map f = ((before ++ e :: after).filter p).map f := by
  cases h : p e with
  | true => simp [List.filter_append, hp, h, hf]
  | false => simp [List.filter_append, hp, h]

theorem countP_exchange {p : Entry → Bool} {e e' : Entry} (hp : p e' = p e)
    (before after : Ledger) :
    (before ++ e' :: after).countP p = (before ++ e :: after).countP p := by
  rw [List.countP_append, List.countP_append, List.countP_cons, List.countP_cons, hp]

theorem countP_gain {p : Entry → Bool} {e e' : Entry} (he : p e = false) (he' : p e' = true)
    (before after : Ledger) :
    (before ++ e' :: after).countP p = (before ++ e :: after).countP p + 1 := by
  rw [List.countP_append, List.countP_append, List.countP_cons, List.countP_cons, if_pos he',
    if_neg (by simp [he])]
  omega

theorem countP_keep_at {p : Stage → Bool} (h : p stage = p e.stage) :
    (before ++ e.at_ stage :: after).countP (fun x => p x.stage) =
      (before ++ e :: after).countP (fun x => p x.stage) :=
  countP_exchange h before after

theorem countP_gain_at {p : Stage → Bool} (he : p e.stage = false) (hstage : p stage = true) :
    (before ++ e.at_ stage :: after).countP (fun x => p x.stage) =
      (before ++ e :: after).countP (fun x => p x.stage) + 1 :=
  countP_gain he hstage before after

theorem mem_exchange {e' x : Entry} :
    x ∈ before ++ e' :: after ↔ x = e' ∨ x ∈ before ++ after := by
  simp only [List.mem_append, List.mem_cons]
  tauto

theorem orchestrator_lt_at {n : Nat} (h : ∀ x ∈ before ++ e :: after, x.orchestrator < n) :
    ∀ x ∈ before ++ e.at_ stage :: after, x.orchestrator < n := by
  intro x hx
  rcases mem_exchange.mp hx with rfl | hx
  · exact h e (mem_exchange.mpr (.inl rfl))
  · exact h x (mem_exchange.mpr (.inr hx))

theorem worker_lt_at {n : Nat}
    (h : ∀ x ∈ before ++ e :: after, ∀ w, x.stage.worker? = some w → w < n)
    (hstage : ∀ w, stage.worker? = some w → w < n) :
    ∀ x ∈ before ++ e.at_ stage :: after, ∀ w, x.stage.worker? = some w → w < n := by
  intro x hx
  rcases mem_exchange.mp hx with rfl | hx
  · exact hstage
  · exact h x (mem_exchange.mpr (.inr hx))

theorem id_ne_of_mem {x : Entry} (h : ((before ++ e :: after).map (·.job.id)).Nodup)
    (hx : x ∈ before ++ after) : x.job.id ≠ e.job.id := by
  rw [List.map_append, List.map_cons] at h
  have hnot := (List.nodup_middle.mp h).notMem
  intro heq
  rw [← heq, ← List.map_append] at hnot
  exact hnot (List.mem_map_of_mem hx)

/-! ## What components keep -/

theorem filterMap_future?_at (before after : Ledger) (e : Entry) (stage : Stage) (i : Nat) :
    ((before ++ e.at_ stage :: after).filter (·.orchestrator = i)).filterMap (·.future?) =
      ((before ++ e :: after).filter (·.orchestrator = i)).filterMap (·.future?) := by
  rw [List.filter_append, List.filter_append, List.filterMap_append, List.filterMap_append]
  by_cases hi : e.orchestrator = i
  · simp [Entry.at_, hi, List.filterMap_cons]
  · simp [Entry.at_, hi]

/-- What is left of the table of pending futures when a job has got a stage that is not pending. -/
theorem Tickets.pending_erase {i : Nat} {futures : List (Future Payload)} {pending : KeyMap Nat}
    (h : Tickets (before ++ e :: after) i futures pending)
    (hids : ((before ++ e :: after).map (·.job.id)).Nodup) (hstage : stage.isPendingAt i = false)
    (id : String) (n : Nat) :
    (pending.erase e.job.id.text).get? id = some n ↔
      ∃ x ∈ before ++ e.at_ stage :: after, x.orchestrator = i ∧ x.job.id.text = id ∧
        x.future? = some n ∧ x.stage.isPendingAt i = true := by
  rw [KeyMap.get?_erase]
  by_cases hid : e.job.id.text = id
  · rw [if_pos hid]
    constructor
    · exact nofun
    · rintro ⟨x, hx, -, hxid, -, hp⟩
      rcases mem_exchange.mp hx with rfl | hx
      · rw [show (e.at_ stage).stage = stage from rfl, hstage] at hp
        cases hp
      · exact absurd (JobId.text_injective (hxid.trans hid.symm)) (id_ne_of_mem hids hx)
  · rw [if_neg hid, h.pending]
    constructor
    · rintro ⟨x, hx, hrest⟩
      rcases mem_exchange.mp hx with rfl | hx
      · exact absurd hrest.2.1 hid
      · exact ⟨x, mem_exchange.mpr (.inr hx), hrest⟩
    · rintro ⟨x, hx, hrest⟩
      rcases mem_exchange.mp hx with rfl | hx
      · exact absurd hrest.2.1 hid
      · exact ⟨x, mem_exchange.mpr (.inr hx), hrest⟩

/-- Futures stay as they are if the new stage is as pending as the old one, with the same result. -/
theorem Tickets.exchange {i : Nat} {futures : List (Future Payload)} {pending : KeyMap Nat}
    (h : Tickets (before ++ e :: after) i futures pending)
    (hpending : ∀ n, e.orchestrator = i → e.future? = some n →
      stage.isPendingAt i = e.stage.isPendingAt i)
    (hresult : ∀ n, e.orchestrator = i → e.future? = some n →
      stage.resultAt? i = e.stage.resultAt? i) :
    Tickets (before ++ e.at_ stage :: after) i futures pending where
  numbered := (filterMap_future?_at before after e stage i).trans h.numbered
  pending id n := by
    rw [h.pending]
    constructor
    · rintro ⟨x, hx, hi, hid, hn, hp⟩
      rcases mem_exchange.mp hx with rfl | hx
      · exact ⟨x.at_ stage, mem_exchange.mpr (.inl rfl), hi, hid, hn, (hpending n hi hn).trans hp⟩
      · exact ⟨x, mem_exchange.mpr (.inr hx), hi, hid, hn, hp⟩
    · rintro ⟨x, hx, hi, hid, hn, hp⟩
      rcases mem_exchange.mp hx with rfl | hx
      · exact ⟨e, mem_exchange.mpr (.inl rfl), hi, hid, hn, (hpending n hi hn).symm.trans hp⟩
      · exact ⟨x, mem_exchange.mpr (.inr hx), hi, hid, hn, hp⟩
  answers x hx hi n hn := by
    rcases mem_exchange.mp hx with rfl | hx
    · have hanswer : (e.at_ stage).answer? = e.answer? := by
        have hresult' := hresult n hi hn
        have hi : e.orchestrator = i := hi
        simp [Entry.answer?, Entry.at_, Entry.report, hi, hresult']
      rw [hanswer]
      exact h.answers e (mem_exchange.mpr (.inl rfl)) hi n hn
    · exact h.answers x (mem_exchange.mpr (.inr hx)) hi n hn

theorem Intake.exchange {i : Nat} {o o' : Orchestrator} (h : Intake (before ++ e :: after) i o)
    (hwaiting : e.orchestrator = i → stage.isWaiting = e.stage.isWaiting)
    (hdispatched : e.orchestrator = i → stage.isDispatched = e.stage.isDispatched)
    (hqueue : o'.queue = o.queue) (hcount : o'.dispatched = o.dispatched)
    (htickets : Tickets (before ++ e.at_ stage :: after) i o'.futures o'.pending) :
    Intake (before ++ e.at_ stage :: after) i o' where
  queue := by
    rw [hqueue, h.queue]
    refine (filter_exchange ?_ ?_ before after).symm
    · by_cases hi : e.orchestrator = i
      · simp [Entry.at_, hi, hwaiting hi]
      · simp [Entry.at_, hi]
    · rfl
  dispatched := by
    rw [hcount, h.dispatched]
    refine (countP_exchange ?_ before after).symm
    by_cases hi : e.orchestrator = i
    · simp [Entry.at_, hi, hdispatched hi]
    · simp [Entry.at_, hi]
  tickets := htickets

/-- A step of a job concerns no orchestrator but the one that took it in. -/
theorem Intake.exchange_other {i : Nat} {o : Orchestrator} (h : Intake (before ++ e :: after) i o)
    (hi : e.orchestrator ≠ i) : Intake (before ++ e.at_ stage :: after) i o :=
  h.exchange (fun h' => absurd h' hi) (fun h' => absurd h' hi) rfl rfl
    (h.tickets.exchange (fun _ h' => absurd h' hi) (fun _ h' => absurd h' hi))

theorem Intake.congr {i : Nat} {o o' : Orchestrator} (h : l.Intake i o)
    (hqueue : o'.queue = o.queue)
    (hdispatched : o'.dispatched = o.dispatched) (hfutures : o'.futures = o.futures)
    (hpending : o'.pending = o.pending) : l.Intake i o' where
  queue := hqueue.trans h.queue
  dispatched := hdispatched.trans h.dispatched
  tickets := by rw [hfutures, hpending]; exact h.tickets

theorem Work.exchange {w : Nat} {worker : Worker} (h : Work (before ++ e :: after) w worker)
    (hcompleted : stage.isCompletedBy w = e.stage.isCompletedBy w)
    (hfailed : stage.isFailedBy w = e.stage.isFailedBy w) :
    Work (before ++ e.at_ stage :: after) w worker where
  completed := by
    rw [h.completed]
    exact (countP_keep_at hcompleted).symm
  failed := by
    rw [h.failed]
    exact (countP_keep_at hfailed).symm

theorem Work.congr {w : Nat} {worker worker' : Worker} (h : l.Work w worker)
    (hcompleted : worker'.completed = worker.completed) (hfailed : worker'.failed = worker.failed) :
    l.Work w worker' where
  completed := hcompleted.trans h.completed
  failed := hfailed.trans h.failed

theorem Traffic.exchange {b : Broker}
    (h : Traffic (before ++ e :: after) b) (hmessage : (e.at_ stage).message? = e.message?)
    (hhandled : stage.isHandled = e.stage.isHandled)
    (hcollected : stage.isCollected = e.stage.isCollected) :
    Traffic (before ++ e.at_ stage :: after) b where
  messages := by
    obtain ⟨queued, hholds, hperm⟩ := h.messages
    refine ⟨queued, hholds, ?_⟩
    rw [List.filterMap_append, List.filterMap_cons, hmessage, ← List.filterMap_cons,
      ← List.filterMap_append]
    exact hperm
  acknowledged := by
    rw [h.acknowledged]
    congr 1
    · exact (countP_keep_at hhandled).symm
    · exact (countP_keep_at hcollected).symm

theorem Traffic.congr {b b' : Broker} (h : l.Traffic b) (hchannels : b'.channels = b.channels)
    (hnext : b'.nextSequence = b.nextSequence) (hacknowledged : b'.acknowledged = b.acknowledged) :
    l.Traffic b' where
  messages := by
    obtain ⟨queued, hholds, hperm⟩ := h.messages
    exact ⟨queued, hholds.congr hchannels hnext, hperm⟩
  acknowledged := hacknowledged.trans h.acknowledged

theorem Traffic.connect {b : Broker} (h : l.Traffic b) : l.Traffic b.connect := h.congr rfl rfl rfl

theorem Traffic.close {b : Broker} (h : l.Traffic b) : l.Traffic b.close := h.congr rfl rfl rfl

/-! ## Steps that concern no job -/

variable {c : Cluster}

theorem getElem?_set_cases {α : Type} {xs : List α} {i j : Nat} {x y : α}
    (h : (xs.set i y)[j]? = some x) : (j = i ∧ x = y) ∨ (j ≠ i ∧ xs[j]? = some x) := by
  by_cases hj : j = i
  · subst hj
    rw [List.getElem?_set_self'] at h
    obtain ⟨_, -, rfl⟩ := Option.map_eq_some_iff.mp h
    exact .inl ⟨rfl, rfl⟩
  · rw [List.getElem?_set_ne (Ne.symm hj)] at h
    exact .inr ⟨hj, h⟩

/-- After a step of an orchestrator it remains to say what it holds, and what the broker holds. -/
theorem Describes.atOrchestrator {l' : Ledger} {i : Nat} {move : Move Orchestrator}
    {o : Orchestrator} (ho : c.orchestrators[i]? = some o) (hids : (l'.map (·.job.id)).Nodup)
    (horchestrator : ∀ x ∈ l', x.orchestrator < c.orchestrators.length)
    (hworker : ∀ x ∈ l', ∀ w, x.stage.worker? = some w → w < c.workers.length)
    (hself : l'.Intake i (move o c.broker).state)
    (hothers : ∀ (j : Nat) (oj : Orchestrator), j ≠ i → c.orchestrators[j]? = some oj →
      l'.Intake j oj)
    (hwork : ∀ (w : Nat) (worker : Worker), c.workers[w]? = some worker → l'.Work w worker)
    (htraffic : l'.Traffic (move o c.broker).broker) :
    l'.Describes (c.atOrchestrator i move) := by
  unfold Cluster.atOrchestrator
  rw [ho]
  constructor
  · exact hids
  · intro x hx
    show _ < (c.orchestrators.set i _).length
    rw [List.length_set]
    exact horchestrator x hx
  · exact hworker
  · intro j oj hj
    rcases getElem?_set_cases hj with ⟨rfl, rfl⟩ | ⟨hne, hj⟩
    · exact hself
    · exact hothers j oj hne hj
  · exact hwork
  · exact htraffic

theorem Describes.atWorker {l' : Ledger} {w : Nat} {move : Move Worker} {worker : Worker}
    (hw : c.workers[w]? = some worker) (hids : (l'.map (·.job.id)).Nodup)
    (horchestrator : ∀ x ∈ l', x.orchestrator < c.orchestrators.length)
    (hworker : ∀ x ∈ l', ∀ v, x.stage.worker? = some v → v < c.workers.length)
    (hintake : ∀ (i : Nat) (o : Orchestrator), c.orchestrators[i]? = some o → l'.Intake i o)
    (hself : l'.Work w (move worker c.broker).state)
    (hothers : ∀ (v : Nat) (other : Worker), v ≠ w → c.workers[v]? = some other →
      l'.Work v other)
    (htraffic : l'.Traffic (move worker c.broker).broker) :
    l'.Describes (c.atWorker w move) := by
  unfold Cluster.atWorker
  rw [hw]
  constructor
  · exact hids
  · exact horchestrator
  · intro x hx v hv
    show _ < (c.workers.set w _).length
    rw [List.length_set]
    exact hworker x hx v hv
  · exact hintake
  · intro v other hv
    rcases getElem?_set_cases hv with ⟨rfl, rfl⟩ | ⟨hne, hv⟩
    · exact hself
    · exact hothers v other hne hv
  · exact htraffic

theorem Describes.atOrchestrator_quiet (h : l.Describes c) {i : Nat} {move : Move Orchestrator}
    (hintake : ∀ o, c.orchestrators[i]? = some o → l.Intake i o →
      l.Intake i (move o c.broker).state)
    (htraffic : ∀ o, c.orchestrators[i]? = some o → l.Traffic (move o c.broker).broker) :
    l.Describes (c.atOrchestrator i move) := by
  cases ho : c.orchestrators[i]? with
  | none =>
    unfold Cluster.atOrchestrator
    rw [ho]
    exact h
  | some o =>
    exact Describes.atOrchestrator ho h.ids h.orchestrator h.worker
      (hintake o ho (h.intake i o ho)) (fun j oj _ hj => h.intake j oj hj) h.work (htraffic o ho)

theorem Describes.atWorker_quiet (h : l.Describes c) {w : Nat} {move : Move Worker}
    (hwork : ∀ worker, c.workers[w]? = some worker → l.Work w worker →
      l.Work w (move worker c.broker).state)
    (htraffic : ∀ worker, c.workers[w]? = some worker → l.Traffic (move worker c.broker).broker) :
    l.Describes (c.atWorker w move) := by
  cases hw : c.workers[w]? with
  | none =>
    unfold Cluster.atWorker
    rw [hw]
    exact h
  | some worker =>
    exact Describes.atWorker hw h.ids h.orchestrator h.worker h.intake
      (hwork worker hw (h.work w worker hw)) (fun v other _ hv => h.work v other hv)
      (htraffic worker hw)

end Ledger
end Dataflow
