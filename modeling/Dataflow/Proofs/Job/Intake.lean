/-
How the intake of jobs and their dispatch move the ledger.

A job that is taken in becomes the last entry.  The job that is dispatched is the first
waiting one of its orchestrator, which is the head of its queue, and it ends up requested
or rejected, as the broker accepts its message or not.
-/
import Dataflow.Proofs.Job.Frame

namespace Dataflow

namespace Orchestrator

variable {o o' : Orchestrator}

/-! ## Asking for a place in the queue -/

theorem submit_of_stopped (h : o.stopped = true) (job : Job) (wantFuture : Bool) :
    o.submit job wantFuture = (.error .queueClosed, o) := by
  rw [submit, if_pos h]

/-- Whether or not a future was wanted, nothing is pending for a job that is refused. -/
theorem submit_of_full (hopen : o.stopped = false)
    (hfull : o.settings.queueCapacity ≤ o.queue.length) (job : Job) (wantFuture : Bool) :
    o.submit job wantFuture =
      (.error (.queueFull o.settings.queueCapacity),
        { o with pending := o.pending.erase job.id.text }) := by
  have herase : (o.pending.insert job.id.text o.futures.length).erase job.id.text =
      o.pending.erase job.id.text := by
    refine KeyMap.ext_get? fun id => ?_
    rw [KeyMap.get?_erase, KeyMap.get?_erase, KeyMap.get?_insert]
    split <;> rfl
  cases wantFuture with
  | false => simp [submit, send, hopen, hfull]
  | true => simp [submit, send, hopen, hfull, herase]

theorem submit_of_room (hopen : o.stopped = false)
    (hroom : o.queue.length < o.settings.queueCapacity) (job : Job) (wantFuture : Bool) :
    o.submit job wantFuture =
      if wantFuture then
        (.ok { id := job.id, future? := some o.futures.length },
          { o with
            queue := o.queue ++ [job]
            futures := o.futures ++ [.new]
            pending := o.pending.insert job.id.text o.futures.length })
      else (.ok { id := job.id, future? := none }, { o with queue := o.queue ++ [job] }) := by
  cases wantFuture with
  | false => simp [submit, send, hopen, Nat.not_le.mpr hroom]
  | true => simp [submit, send, hopen, Nat.not_le.mpr hroom]

theorem enqueue_eq_ok {job : Job} {wantFuture : Bool}
    {ticket : Ticket} (h : o.enqueue job wantFuture = .ok (ticket, o')) :
    (wantFuture = true ∧ ticket = { id := job.id, future? := some o.futures.length } ∧
        o' = { o with
          queue := o.queue ++ [job]
          futures := o.futures ++ [.new]
          pending := o.pending.insert job.id.text o.futures.length }) ∨
      (wantFuture = false ∧ ticket = { id := job.id, future? := none } ∧
        o' = { o with queue := o.queue ++ [job] }) := by
  unfold enqueue at h
  rcases Bool.eq_false_or_eq_true o.stopped with hstopped | hopen
  · rw [submit_of_stopped hstopped] at h
    cases h
  rcases Nat.lt_or_ge o.queue.length o.settings.queueCapacity with hroom | hfull
  · rw [submit_of_room hopen hroom] at h
    cases wantFuture with
    | true =>
      cases h
      exact .inl ⟨rfl, rfl, rfl⟩
    | false =>
      cases h
      exact .inr ⟨rfl, rfl, rfl⟩
  · rw [submit_of_full hopen hfull] at h
    cases h

end Orchestrator

theorem Cluster.enqueue_eq_ok {c c' : Cluster} {i : Nat} {job : Job} {wantFuture : Bool}
    {ticket : Ticket} (h : c.enqueue i job wantFuture = .ok (ticket, c')) :
    ∃ o o', c.orchestrators[i]? = some o ∧ o.enqueue job wantFuture = .ok (ticket, o') ∧
      c' = { c with
        orchestrators := c.orchestrators.set i o'
        log := c.log ++ [.message (o'.enqueuedMessage job.id)] } := by
  unfold enqueue at h
  cases ho : c.orchestrators[i]? with
  | none =>
    rw [ho] at h
    cases h
  | some o =>
    simp only [ho, Except.bind_eq_ok_iff] at h
    obtain ⟨⟨t, o'⟩, hintake, hok⟩ := h
    cases hok
    exact ⟨o, o', rfl, hintake, rfl⟩

namespace Ledger

variable {l : Ledger} {c : Cluster}

/-! ## Taking a job in -/

theorem Tickets.append_none {i : Nat} {futures : List (Future Payload)} {pending : KeyMap Nat}
    {e : Entry} (h : l.Tickets i futures pending) (he : e.orchestrator = i → e.future? = none) :
    Tickets (l ++ [e]) i futures pending where
  numbered := by
    rw [← h.numbered, List.filter_append]
    by_cases hi : e.orchestrator = i
    · simp [hi, he hi]
    · simp [hi]
  pending id n := by
    rw [h.pending]
    constructor
    · rintro ⟨x, hx, hrest⟩
      exact ⟨x, List.mem_append_left _ hx, hrest⟩
    · rintro ⟨x, hx, hi, hid, hn, hp⟩
      rcases List.mem_append.mp hx with hx | hx
      · exact ⟨x, hx, hi, hid, hn, hp⟩
      · rw [List.mem_singleton.mp hx] at hi hn
        rw [he hi] at hn
        cases hn
  answers x hx hi n hn := by
    rcases List.mem_append.mp hx with hx | hx
    · exact h.answers x hx hi n hn
    · rw [List.mem_singleton.mp hx] at hi hn
      rw [he hi] at hn
      cases hn

/-- A new future gets the next number and becomes pending. -/
theorem Tickets.append_some {i : Nat} {futures : List (Future Payload)} {pending : KeyMap Nat}
    {job : Job} (h : l.Tickets i futures pending) (hfresh : job.id ∉ l.map (·.job.id)) :
    Tickets (l ++ [⟨i, job, some futures.length, .waiting⟩]) i (futures ++ [.new])
      (pending.insert job.id.text futures.length) where
  numbered := by
    rw [List.length_append, List.length_singleton, List.range_succ, ← h.numbered,
      List.filter_append, List.filterMap_append]
    simp
  pending id n := by
    rw [KeyMap.get?_insert]
    by_cases hid : job.id.text = id
    · rw [if_pos hid]
      constructor
      · intro hn
        exact ⟨_, List.mem_append_right _ List.mem_cons_self, rfl, hid, hn, rfl⟩
      · rintro ⟨x, hx, hi, hxid, hn, -⟩
        rcases List.mem_append.mp hx with hx | hx
        · have heq : x.job.id = job.id := JobId.text_injective (hxid.trans hid.symm)
          exact absurd (List.mem_map.mpr ⟨x, hx, heq⟩) hfresh
        · rw [List.mem_singleton.mp hx] at hn
          exact hn
    · rw [if_neg hid, h.pending]
      constructor
      · rintro ⟨x, hx, hrest⟩
        exact ⟨x, List.mem_append_left _ hx, hrest⟩
      · rintro ⟨x, hx, hi, hxid, hrest⟩
        rcases List.mem_append.mp hx with hx | hx
        · exact ⟨x, hx, hi, hxid, hrest⟩
        · rw [List.mem_singleton.mp hx] at hxid
          exact absurd hxid hid
  answers x hx hi n hn := by
    rcases List.mem_append.mp hx with hx | hx
    · have hanswer := h.answers x hx hi n hn
      rw [List.getElem?_append_left (List.getElem?_eq_some_iff.mp hanswer).1]
      exact hanswer
    · rw [List.mem_singleton.mp hx] at hn ⊢
      cases hn
      rw [List.getElem?_append_right (Nat.le_refl _), Nat.sub_self]
      rfl

theorem Intake.append_other {i : Nat} {o : Orchestrator} {e : Entry} (h : l.Intake i o)
    (hi : e.orchestrator ≠ i) : Intake (l ++ [e]) i o where
  queue := by
    rw [h.queue, List.filter_append]
    simp [hi]
  dispatched := by
    rw [h.dispatched, List.countP_append]
    simp [hi]
  tickets := h.tickets.append_none fun hi' => absurd hi' hi

theorem Intake.append {i : Nat} {o o' : Orchestrator} {job : Job} {future? : Option Nat}
    (h : l.Intake i o) (hqueue : o'.queue = o.queue ++ [job])
    (hdispatched : o'.dispatched = o.dispatched)
    (htickets : Tickets (l ++ [⟨i, job, future?, .waiting⟩]) i o'.futures o'.pending) :
    Intake (l ++ [⟨i, job, future?, .waiting⟩]) i o' where
  queue := by
    rw [hqueue, h.queue, List.filter_append, List.map_append]
    simp [Stage.isWaiting]
  dispatched := by
    rw [hdispatched, h.dispatched, List.countP_append]
    simp [Stage.isDispatched]
  tickets := htickets

theorem Work.append {w : Nat} {worker : Worker} {e : Entry} (h : l.Work w worker)
    (he : e.stage = .waiting) : Work (l ++ [e]) w worker where
  completed := by
    rw [h.completed, List.countP_append]
    simp [he, Stage.isCompletedBy]
  failed := by
    rw [h.failed, List.countP_append]
    simp [he, Stage.isFailedBy]

theorem Traffic.append {b : Broker} {e : Entry} (h : l.Traffic b) (he : e.stage = .waiting) :
    Traffic (l ++ [e]) b where
  messages := by
    obtain ⟨queued, hholds, hperm⟩ := h.messages
    refine ⟨queued, hholds, ?_⟩
    rw [List.filterMap_append]
    simpa [Entry.message?, he] using hperm
  acknowledged := by
    rw [h.acknowledged, List.countP_append, List.countP_append]
    simp [he, Stage.isHandled, Stage.worker?, Stage.isCollected]

theorem Intake.enqueue {i : Nat} {o o' : Orchestrator} {job : Job} {wantFuture : Bool}
    {ticket : Ticket} (h : l.Intake i o) (hfresh : job.id ∉ l.map (·.job.id))
    (henqueue : o.enqueue job wantFuture = .ok (ticket, o')) :
    Intake (l ++ [⟨i, job, ticket.future?, .waiting⟩]) i o' := by
  rcases Orchestrator.enqueue_eq_ok henqueue with ⟨-, rfl, rfl⟩ | ⟨-, rfl, rfl⟩
  · exact h.append rfl rfl (h.tickets.append_some hfresh)
  · exact h.append rfl rfl (h.tickets.append_none fun _ => rfl)

/-- A job that is taken in becomes the last entry of the ledger. -/
theorem Describes.enqueue (h : l.Describes c) {i : Nat} {job : Job} {wantFuture : Bool}
    (hfresh : job.id ∉ l.map (·.job.id)) {ticket : Ticket} {c' : Cluster}
    (henqueue : c.enqueue i job wantFuture = .ok (ticket, c')) :
    Describes (l ++ [⟨i, job, ticket.future?, .waiting⟩]) c' := by
  obtain ⟨o, o', ho, hintake, rfl⟩ := Cluster.enqueue_eq_ok henqueue
  have hsingle : (l.map (·.job.id)).Disjoint [job.id] :=
    List.disjoint_singleton.mpr hfresh
  constructor
  · rw [List.map_append]
    exact h.ids.append (List.nodup_singleton _) hsingle
  · intro x hx
    show _ < (c.orchestrators.set i o').length
    rw [List.length_set]
    rcases List.mem_append.mp hx with hx | hx
    · exact h.orchestrator x hx
    · rw [List.mem_singleton.mp hx]
      exact (List.getElem?_eq_some_iff.mp ho).1
  · intro x hx w hw
    rcases List.mem_append.mp hx with hx | hx
    · exact h.worker x hx w hw
    · rw [List.mem_singleton.mp hx] at hw
      cases hw
  · intro j oj hj
    rcases getElem?_set_cases hj with ⟨rfl, rfl⟩ | ⟨hne, hj⟩
    · exact (h.intake j o ho).enqueue hfresh hintake
    · exact (h.intake j oj hj).append_other (Ne.symm hne)
  · intro w worker hworker
    exact (h.work w worker hworker).append rfl
  · exact h.traffic.append rfl

/-! ## Dispatching a job -/

theorem Intake.head {i : Nat} {o : Orchestrator} {job : Job} {rest : List Job}
    (h : l.Intake i o) (hqueue : o.queue = job :: rest) :
    ∃ before e after, l = before ++ e :: after ∧ e.orchestrator = i ∧ e.stage = .waiting ∧
      e.job = job ∧
      rest = ((before ++ after).filter fun x => x.orchestrator = i ∧ x.stage.isWaiting = true).map
        (·.job) := by
  have hmap := h.queue
  rw [hqueue] at hmap
  obtain ⟨e, es, hfilter, hjob, hrest⟩ := List.map_eq_cons_iff.mp hmap.symm
  obtain ⟨before, after, rfl, hbefore, he, hafter⟩ := List.filter_eq_cons_iff.mp hfilter
  have he : e.orchestrator = i ∧ e.stage.isWaiting = true := by simpa using he
  have hstage : e.stage = .waiting := by
    cases hs : e.stage with
    | waiting => rfl
    | _ => simp [hs, Stage.isWaiting] at he
  refine ⟨before, e, after, rfl, he.1, hstage, hjob, ?_⟩
  rw [List.filter_append, List.filter_eq_nil_iff.mpr hbefore, List.nil_append, hafter, hrest]

theorem queue_at {i : Nat} {before after : Ledger} {e : Entry} {stage : Stage}
    (hstage : stage.isWaiting = false) :
    ((before ++ e.at_ stage :: after).filter fun x =>
        x.orchestrator = i ∧ x.stage.isWaiting = true).map (·.job) =
      ((before ++ after).filter fun x =>
        x.orchestrator = i ∧ x.stage.isWaiting = true).map (·.job) := by
  rw [filter_of_not (by simp [Entry.at_, hstage])]

theorem Tickets.reject {before after : Ledger} {e : Entry} {i : Nat}
    {futures : List (Future Payload)} {pending : KeyMap Nat}
    (h : Tickets (before ++ e :: after) i futures pending) (hi : e.orchestrator = i)
    (hstage : e.stage = .waiting) (hids : ((before ++ e :: after).map (·.job.id)).Nodup) :
    Tickets (before ++ e.at_ .rejected :: after) i futures (pending.erase e.job.id.text) where
  numbered := (filterMap_future?_at before after e .rejected i).trans h.numbered
  pending := h.pending_erase hids rfl
  answers x hx hxi n hn := by
    rcases mem_exchange.mp hx with rfl | hx
    · rw [h.answers e (mem_exchange.mpr (.inl rfl)) hi n hn, Entry.answer?, hstage]
      rfl
    · exact h.answers x (mem_exchange.mpr (.inr hx)) hxi n hn

theorem Traffic.accept {before after : Ledger} {e : Entry} {stage : Stage} {b : Broker}
    {m : Message} (h : Traffic (before ++ e :: after) b) (hnone : e.message? = none)
    (hsome : (e.at_ stage).message? = some { m with awaitsAck := true })
    (hhandled : stage.isHandled = e.stage.isHandled)
    (hcollected : stage.isCollected = e.stage.isCollected) :
    Traffic (before ++ e.at_ stage :: after) (b.accept m) where
  messages := by
    obtain ⟨queued, hholds, hperm⟩ := h.messages
    refine ⟨queued ++ [b.queued m], hholds.accept m, ?_⟩
    rw [List.filterMap_append, List.filterMap_cons, hnone] at hperm
    rw [List.filterMap_append, List.filterMap_cons, hsome, List.map_append]
    have hperm' := hperm.append_right [{ m with awaitsAck := true }]
    refine hperm'.trans ?_
    rw [List.append_assoc]
    exact List.perm_append_comm.append_left _
  acknowledged := by
    show b.acknowledged = _
    rw [h.acknowledged]
    congr 1
    · exact (countP_keep_at hhandled).symm
    · exact (countP_keep_at hcollected).symm

theorem Describes.dispatched {before after : Ledger} {e : Entry} {stage : Stage}
    {o : Orchestrator} {move : Move Orchestrator} (h : Describes (before ++ e :: after) c)
    (ho : c.orchestrators[e.orchestrator]? = some o) (he : e.stage = .waiting)
    (hstage : stage = .rejected ∨ stage = .requested)
    (hself : Intake (before ++ e.at_ stage :: after) e.orchestrator (move o c.broker).state)
    (htraffic : Traffic (before ++ e.at_ stage :: after) (move o c.broker).broker) :
    Describes (before ++ e.at_ stage :: after) (c.atOrchestrator e.orchestrator move) := by
  have hnobody : stage.worker? = none := by
    rcases hstage with rfl | rfl <;> rfl
  refine Describes.atOrchestrator ho ?_ (orchestrator_lt_at h.orchestrator)
    (worker_lt_at h.worker fun w hw => ?_) hself ?_ ?_ htraffic
  · rw [map_id_at]
    exact h.ids
  · rw [hnobody] at hw
    cases hw
  · exact fun j oj hne hj => (h.intake j oj hj).exchange_other (Ne.symm hne)
  · intro w worker hw
    refine (h.work w worker hw).exchange ?_ ?_
    · rcases hstage with rfl | rfl <;> rw [he] <;> rfl
    · rcases hstage with rfl | rfl <;> rw [he] <;> rfl

theorem Intake.request {before after : Ledger} {e : Entry} {o : Orchestrator} {rest : List Job}
    (h : Intake (before ++ e :: after) e.orchestrator o) (he : e.stage = .waiting)
    (hrest : rest = ((before ++ after).filter fun x =>
      x.orchestrator = e.orchestrator ∧ x.stage.isWaiting = true).map (·.job)) :
    Intake (before ++ e.at_ .requested :: after) e.orchestrator
      { o with queue := rest, dispatched := o.dispatched + 1 } where
  queue := hrest.trans (queue_at rfl).symm
  dispatched := by
    show o.dispatched + 1 = _
    rw [h.dispatched]
    refine (countP_gain ?_ ?_ before after).symm
    · simp [he, Stage.isDispatched]
    · simp [Entry.at_, Stage.isDispatched]
  tickets := h.tickets.exchange (fun _ _ _ => by rw [he]; rfl) (fun _ _ _ => by rw [he]; rfl)

theorem Intake.reject {before after : Ledger} {e : Entry} {o : Orchestrator} {rest : List Job}
    (h : Intake (before ++ e :: after) e.orchestrator o) (he : e.stage = .waiting)
    (hids : ((before ++ e :: after).map (·.job.id)).Nodup)
    (hrest : rest = ((before ++ after).filter fun x =>
      x.orchestrator = e.orchestrator ∧ x.stage.isWaiting = true).map (·.job)) :
    Intake (before ++ e.at_ .rejected :: after) e.orchestrator
      { o with queue := rest, pending := o.pending.erase e.job.id.text } where
  queue := hrest.trans (queue_at rfl).symm
  dispatched := by
    rw [h.dispatched]
    refine (countP_exchange ?_ before after).symm
    simp [Entry.at_, he, Stage.isDispatched]
  tickets := h.tickets.reject rfl he hids

theorem dispatch_of_nil {o : Orchestrator} (h : o.queue = []) (b : Broker) :
    Orchestrator.dispatch o b = { state := o, broker := b } := by
  rw [Orchestrator.dispatch, h]

theorem Describes.dispatch_head (h : l.Describes c) (bench : Workbench) {i : Nat}
    {o : Orchestrator} (ho : c.orchestrators[i]? = some o) {job : Job} {rest : List Job}
    (hqueue : o.queue = job :: rest) :
    ∃ l', Step bench c (.dispatch i) l l' ∧
      l'.Describes (c.atOrchestrator i Orchestrator.dispatch) := by
  have hadvance : c.advances (.dispatch i) = true := by simp [Cluster.advances, ho, hqueue]
  obtain ⟨before, e, after, rfl, rfl, he, rfl, hrest⟩ := (h.intake i o ho).head hqueue
  have hintake := h.intake e.orchestrator o ho
  cases hpublish : c.broker.publish e.job.message with
  | ok b =>
    have hmove : Orchestrator.dispatch o c.broker =
        { state := { o with queue := rest, dispatched := o.dispatched + 1 }
          broker := b
          events := [.message (.dispatched e.job.id.text (Job.channel e.job.id.text))] } := by
      rw [Orchestrator.dispatch, hqueue]
      simp only [hpublish]
    refine ⟨before ++ e.at_ .requested :: after,
      Step.of_advance hadvance (.request before after e b he hpublish), ?_⟩
    refine h.dispatched ho he (.inr rfl) ?_ ?_
    · rw [hmove]
      exact hintake.request he hrest
    · rw [hmove]
      show Traffic _ b
      rw [(Broker.publish_eq_ok_iff.mp hpublish).2]
      exact h.traffic.accept (by rw [Entry.message?, he]) rfl (by rw [he]; rfl) (by rw [he]; rfl)
  | error err =>
    have hmove : Orchestrator.dispatch o c.broker =
        { state := { o with queue := rest, pending := o.pending.erase e.job.id.text }
          broker := c.broker
          events := [.message (.dispatchFailed e.job.id.text err.message)] } := by
      rw [Orchestrator.dispatch, hqueue]
      simp only [hpublish]
    refine ⟨before ++ e.at_ .rejected :: after,
      Step.of_advance hadvance (.reject before after e err he hpublish), ?_⟩
    refine h.dispatched ho he (.inl rfl) ?_ ?_
    · rw [hmove]
      exact hintake.reject he h.ids hrest
    · rw [hmove]
      exact h.traffic.exchange (by simp [Entry.message?, Entry.at_, he]) (by rw [he]; rfl)
        (by rw [he]; rfl)

theorem Describes.dispatch (h : l.Describes c) (bench : Workbench) (i : Nat) :
    ∃ l', Step bench c (.dispatch i) l l' ∧
      l'.Describes (c.atOrchestrator i Orchestrator.dispatch) := by
  cases ho : c.orchestrators[i]? with
  | none =>
    have hrest : c.advances (.dispatch i) = false := by simp [Cluster.advances, ho]
    refine ⟨l, Step.of_rest hrest, ?_⟩
    exact h.atOrchestrator_quiet (fun o ho' => by rw [ho] at ho'; cases ho')
      (fun o ho' => by rw [ho] at ho'; cases ho')
  | some o =>
    cases hqueue : o.queue with
    | nil =>
      have hrest : c.advances (.dispatch i) = false := by simp [Cluster.advances, ho, hqueue]
      refine ⟨l, Step.of_rest hrest, h.atOrchestrator_quiet ?_ ?_⟩
      · intro o' ho' hintake
        rw [ho] at ho'
        cases ho'
        rw [dispatch_of_nil hqueue]
        exact hintake
      · intro o' ho'
        rw [ho] at ho'
        cases ho'
        rw [dispatch_of_nil hqueue]
        exact h.traffic
    | cons job rest => exact h.dispatch_head bench ho hqueue

end Ledger
end Dataflow
