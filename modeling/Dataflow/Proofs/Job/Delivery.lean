/-
How messages move the ledger.

A message that is taken from the broker belongs to one entry.  A worker that takes a
request leaves the job failed or reported, and a result is only reported if the
pipeline of the job yields it.  An orchestrator that takes a report collects it; it
resolves the future of the job if it took the job in and a future was wanted.
-/
import Dataflow.Proofs.Job.Frame
import Dataflow.Proofs.Job.Wire

namespace Dataflow

/-! ## Requests and reports -/

namespace Entry

variable {e : Entry} {m : Message}

theorem message?_eq_some_of_request (h : e.message? = some m)
    (hselects : Job.requests.selects m.channel = true) :
    e.stage = .requested ∧ m = e.request := by
  unfold message? at h
  split at h
  · rename_i hstage
    cases h
    exact ⟨hstage, rfl⟩
  · cases h
    rw [report_channel, Job.requests_selects_statusChannel] at hselects
    cases hselects
  · cases h

theorem message?_eq_some_of_report (h : e.message? = some m)
    (hselects : Job.reports.selects m.channel = true) :
    ∃ w q, e.stage = .reported w q ∧ m = e.report q := by
  unfold message? at h
  split at h
  · cases h
    rw [request_channel, Job.reports_selects_channel] at hselects
    cases hselects
  · rename_i w q hstage
    cases h
    exact ⟨w, q, hstage, rfl⟩
  · cases h

end Entry

namespace Workbench

/-- A worker that gets a result ran the pipeline of the job to its end. -/
theorem yields_of_execute {bench : Workbench} {executor : ExecutorKind} {job : Job} {q : Payload}
    (h : (bench.execute executor job.pipeline job.payload).1 = .ok q) : bench.Yields job q :=
  execute_eq_ok_iff.mp h

/-- What a worker makes of the message of a job is the report of a result that its pipeline yields,
or an error. -/
theorem status_request (bench : Workbench) (executor : ExecutorKind) (e : Entry) :
    (∃ q, bench.Yields e.job q ∧
        (bench.status executor e.request).1 = .ok (Job.status e.job.id.text q)) ∨
      ∃ err, (bench.status executor e.request).1 = .error err := by
  have hmetadata : JobDescriptor.ofMetadata e.request.metadata =
      .ok { id := e.job.id.text, pipeline := e.job.pipeline } :=
    JobDescriptor.ofMetadata_metadata e.job
  have hstatus : (bench.status executor e.request).1 =
      (bench.execute executor e.job.pipeline e.job.payload).1.map (Job.status e.job.id.text) := by
    unfold status
    rw [hmetadata]
    rfl
  rw [hstatus]
  cases hexecute : (bench.execute executor e.job.pipeline e.job.payload).1 with
  | ok q => exact .inl ⟨q, yields_of_execute hexecute, rfl⟩
  | error err => exact .inr ⟨err, rfl⟩

end Workbench

namespace Ledger

variable {l : Ledger} {c : Cluster}

/-! ## Taking a message -/

/-- A taken message belongs to one entry, and the others keep theirs. -/
theorem Traffic.take {b b' : Broker} {pattern : ChannelPattern} {m : Message} (h : l.Traffic b)
    (htake : b.take? pattern = some (m, b')) :
    ∃ before e after, l = before ++ e :: after ∧ e.message? = some m ∧
      pattern.selects m.channel = true ∧ m.awaitsAck = true ∧
      b'.acknowledged = b.acknowledged ∧
      ∃ queued, b'.Holds queued ∧
        (queued.map (·.message)).Perm ((before ++ after).filterMap Entry.message?) := by
  obtain ⟨queued, hholds, hperm⟩ := h.messages
  rcases hholds.take?_eq pattern with ⟨q, b'', hfind, htake', -, -, hacknowledged, hholds'⟩ |
    ⟨-, htake'⟩
  · rw [htake'] at htake
    cases htake
    have hq : q ∈ queued := List.mem_of_find?_eq_some hfind
    have hmem : q.message ∈ l.filterMap Entry.message? :=
      hperm.subset (List.mem_map_of_mem hq)
    obtain ⟨e, he, hmessage⟩ := List.mem_filterMap.mp hmem
    obtain ⟨before, after, rfl⟩ := List.append_of_mem he
    refine ⟨before, e, after, rfl, hmessage, by simpa using List.find?_some hfind,
      hholds.unacked q hq, hacknowledged, _, hholds', ?_⟩
    -- The queue loses the message of `q`, and the entries lose that of `e`: the same one.
    obtain ⟨-, first, rest, rfl, hfirst⟩ := List.find?_eq_some_iff_append.mp hfind
    have hselects := List.find?_some hfind
    rw [List.eraseP_append_right _ (by simpa using hfirst),
      List.eraseP_cons_of_pos (p := fun x : Queued => pattern.selects x.message.channel) hselects]
    rw [List.filterMap_append, List.filterMap_cons, hmessage, List.map_append, List.map_cons]
      at hperm
    rw [List.filterMap_append, List.map_append]
    exact List.Perm.cons_inv
      ((List.perm_middle.symm.trans hperm).trans List.perm_middle)
  · rw [htake'] at htake
    cases htake

theorem Traffic.acknowledge {before after : Ledger} {e : Entry} {stage : Stage} {b : Broker}
    {m : Message} {queued : List Queued} (hm : m.awaitsAck = true) (hholds : b.Holds queued)
    (hperm : (queued.map (·.message)).Perm
      ((before ++ e.at_ stage :: after).filterMap Entry.message?))
    (hcount : b.acknowledged + 1 =
      (before ++ e.at_ stage :: after).countP (·.stage.isHandled) +
        (before ++ e.at_ stage :: after).countP (·.stage.isCollected)) :
    Traffic (before ++ e.at_ stage :: after) (b.acknowledge m).2 where
  messages := ⟨queued, hholds.acknowledge m, hperm⟩
  acknowledged := by
    rw [← hcount, Broker.acknowledge, if_pos hm]

theorem perm_of_none {before after : Ledger} {e : Entry} {messages : List Message}
    (hperm : messages.Perm ((before ++ after).filterMap Entry.message?))
    (hnone : e.message? = none) :
    messages.Perm ((before ++ e :: after).filterMap Entry.message?) := by
  rw [List.filterMap_append, List.filterMap_cons, hnone, ← List.filterMap_append]
  exact hperm

theorem perm_of_some {before after : Ledger} {e : Entry} {messages : List Message} {m : Message}
    (hperm : messages.Perm ((before ++ after).filterMap Entry.message?))
    (hsome : e.message? = some m) :
    (messages ++ [m]).Perm ((before ++ e :: after).filterMap Entry.message?) := by
  rw [List.filterMap_append, List.filterMap_cons, hsome]
  rw [List.filterMap_append] at hperm
  exact List.perm_append_comm.trans ((hperm.cons m).trans List.perm_middle.symm)

/-! ## A worker takes a request -/

theorem handleNext_eq (bench : Workbench) :
    Cluster.handleNext bench = Worker.handleNext bench { pattern := Job.requests } := rfl

theorem next?_eq (pattern : ChannelPattern) (b : Broker) :
    Subscription.next? { pattern } b = b.take? pattern := rfl

theorem handle_cases (bench : Workbench) (worker : Worker) (b : Broker) (e : Entry) :
    let moved := Worker.handle bench e.request worker b
    (∃ q, bench.Yields e.job q ∧
        moved.state = { worker with completed := worker.completed + 1 } ∧
        moved.broker = ((b.accept (Job.status e.job.id.text q)).acknowledge e.request).2) ∨
      (moved.state = { worker with failed := worker.failed + 1 } ∧
        moved.broker = (b.acknowledge e.request).2) := by
  intro moved
  rcases bench.status_request worker.executor e with ⟨q, hq, hstatus⟩ | ⟨err, hstatus⟩
  · cases hpublish : b.publish (Job.status e.job.id.text q) with
    | ok b' =>
      refine .inl ⟨q, hq, ?_, ?_⟩
      · simp only [moved, Worker.handle, hstatus, bind, Except.bind, hpublish, Except.mapError]
      · simp only [moved, Worker.handle, hstatus, bind, Except.bind, hpublish, Except.mapError,
          (Broker.publish_eq_ok_iff.mp hpublish).2]
    | error err =>
      refine .inr ⟨?_, ?_⟩
      · simp only [moved, Worker.handle, hstatus, bind, Except.bind, hpublish, Except.mapError]
      · simp only [moved, Worker.handle, hstatus, bind, Except.bind, hpublish, Except.mapError]
  · refine .inr ⟨?_, ?_⟩
    · simp only [moved, Worker.handle, hstatus, bind, Except.bind]
    · simp only [moved, Worker.handle, hstatus, bind, Except.bind]

theorem Intake.handled {before after : Ledger} {e : Entry} {stage : Stage} {i : Nat}
    {o : Orchestrator} (h : Intake (before ++ e :: after) i o) (he : e.stage = .requested)
    (hstage : (∃ w, stage = .failed w) ∨ ∃ w q, stage = .reported w q) :
    Intake (before ++ e.at_ stage :: after) i o := by
  rcases hstage with ⟨w, rfl⟩ | ⟨w, q, rfl⟩
  · exact h.exchange (fun _ => by rw [he]; rfl) (fun _ => by rw [he]; rfl) rfl rfl
      (h.tickets.exchange (fun _ _ _ => by rw [he]; rfl) (fun _ _ _ => by rw [he]; rfl))
  · exact h.exchange (fun _ => by rw [he]; rfl) (fun _ => by rw [he]; rfl) rfl rfl
      (h.tickets.exchange (fun _ _ _ => by rw [he]; rfl) (fun _ _ _ => by rw [he]; rfl))

theorem Describes.handled {before after : Ledger} {e : Entry} {stage : Stage} {w : Nat}
    {worker : Worker} {move : Move Worker} (h : Describes (before ++ e :: after) c)
    (hw : c.workers[w]? = some worker) (he : e.stage = .requested)
    (hstage : stage = .failed w ∨ ∃ q, stage = .reported w q)
    (hself : Work (before ++ e.at_ stage :: after) w (move worker c.broker).state)
    (htraffic : Traffic (before ++ e.at_ stage :: after) (move worker c.broker).broker) :
    Describes (before ++ e.at_ stage :: after) (c.atWorker w move) := by
  have hworker : ∀ v, stage.worker? = some v → v = w := by
    rcases hstage with rfl | ⟨q, rfl⟩
    · exact fun v hv => (Option.some.inj hv).symm
    · exact fun v hv => (Option.some.inj hv).symm
  have hlt : w < c.workers.length := (List.getElem?_eq_some_iff.mp hw).1
  refine Describes.atWorker hw ?_ (orchestrator_lt_at h.orchestrator)
    (worker_lt_at h.worker fun v hv => hworker v hv ▸ hlt) ?_ hself ?_ htraffic
  · rw [map_id_at]
    exact h.ids
  · exact fun i o ho => (h.intake i o ho).handled he (hstage.imp (⟨w, ·⟩) (⟨w, ·⟩))
  · intro v other hne hv
    refine (h.work v other hv).exchange ?_ ?_
    · rcases hstage with rfl | ⟨q, rfl⟩ <;> simp [he, Stage.isCompletedBy, Ne.symm hne]
    · rcases hstage with rfl | ⟨q, rfl⟩ <;> simp [he, Stage.isFailedBy, Ne.symm hne]

theorem Work.report {before after : Ledger} {e : Entry} {w : Nat} {worker : Worker}
    (h : Work (before ++ e :: after) w worker) (he : e.stage = .requested) (q : Payload) :
    Work (before ++ e.at_ (.reported w q) :: after) w
      { worker with completed := worker.completed + 1 } where
  completed := by
    rw [h.completed]
    exact (countP_gain_at (by rw [he]; rfl) (by simp [Stage.isCompletedBy])).symm
  failed := by
    rw [h.failed]
    exact (countP_keep_at (by rw [he]; rfl)).symm

theorem Work.fail {before after : Ledger} {e : Entry} {w : Nat} {worker : Worker}
    (h : Work (before ++ e :: after) w worker) (he : e.stage = .requested) :
    Work (before ++ e.at_ (.failed w) :: after) w
      { worker with failed := worker.failed + 1 } where
  completed := by
    rw [h.completed]
    exact (countP_keep_at (by rw [he]; rfl)).symm
  failed := by
    rw [h.failed]
    exact (countP_gain_at (by rw [he]; rfl) (by simp [Stage.isFailedBy])).symm

theorem handleNext_of_none {bench : Workbench} {worker : Worker} {b : Broker}
    (h : b.take? Job.requests = none) :
    Cluster.handleNext bench worker b = { state := worker, broker := b } := by
  rw [handleNext_eq, Worker.handleNext, next?_eq, h]
  rfl

theorem handleNext_of_some (bench : Workbench) (worker : Worker) {b b' : Broker} {m : Message}
    (h : b.take? Job.requests = some (m, b')) :
    Cluster.handleNext bench worker b = Worker.handle bench m worker b' := by
  rw [handleNext_eq, Worker.handleNext, next?_eq, h]

theorem Describes.handle_request (h : l.Describes c) (bench : Workbench) {w : Nat}
    {worker : Worker} (hw : c.workers[w]? = some worker) {m : Message} {b : Broker}
    (htake : c.broker.take? Job.requests = some (m, b)) :
    ∃ l', Step bench c (.handle w) l l' ∧
      l'.Describes (c.atWorker w (Cluster.handleNext bench)) := by
  have hadvance : c.advances (.handle w) = true := by simp [Cluster.advances, hw, htake]
  obtain ⟨before, e, after, rfl, hmessage, hselects, hawaits, hacknowledged, queued, hholds,
    hperm⟩ := h.traffic.take htake
  obtain ⟨he, rfl⟩ := Entry.message?_eq_some_of_request hmessage hselects
  have hmove := handleNext_of_some bench worker htake
  have hcount : b.acknowledged = _ := hacknowledged.trans h.traffic.acknowledged
  -- Whatever comes of the job, its request is acknowledged once and one counter of the worker
  -- grows.
  rcases handle_cases bench worker b e with ⟨q, hq, hstate, hbroker⟩ | ⟨hstate, hbroker⟩
  · refine ⟨before ++ e.at_ (.reported w q) :: after,
      Step.of_advance hadvance (.report before after e w q b he htake hq), ?_⟩
    refine h.handled hw he (.inr ⟨q, rfl⟩) ?_ ?_
    · rw [hmove, hstate]
      exact (h.work w worker hw).report he q
    · rw [hmove, hbroker]
      refine Traffic.acknowledge hawaits (hholds.accept _) ?_ ?_
      · rw [List.map_append]
        exact perm_of_some hperm rfl
      · show b.acknowledged + 1 = _
        rw [hcount, countP_gain_at (p := Stage.isHandled) (by rw [he]; rfl) rfl,
          countP_keep_at (p := Stage.isCollected) (by rw [he]; rfl)]
        omega
  · refine ⟨before ++ e.at_ (.failed w) :: after,
      Step.of_advance hadvance (.fail before after e w b he htake), ?_⟩
    refine h.handled hw he (.inl rfl) ?_ ?_
    · rw [hmove, hstate]
      exact (h.work w worker hw).fail he
    · rw [hmove, hbroker]
      refine Traffic.acknowledge hawaits hholds (perm_of_none hperm rfl) ?_
      rw [hcount, countP_gain_at (p := Stage.isHandled) (by rw [he]; rfl) rfl,
        countP_keep_at (p := Stage.isCollected) (by rw [he]; rfl)]
      omega

theorem Describes.handle (h : l.Describes c) (bench : Workbench) (w : Nat) :
    ∃ l', Step bench c (.handle w) l l' ∧
      l'.Describes (c.atWorker w (Cluster.handleNext bench)) := by
  cases hw : c.workers[w]? with
  | none =>
    have hrest : c.advances (.handle w) = false := by simp [Cluster.advances, hw]
    refine ⟨l, Step.of_rest hrest, ?_⟩
    exact h.atWorker_quiet (fun worker hw' => by rw [hw] at hw'; cases hw')
      (fun worker hw' => by rw [hw] at hw'; cases hw')
  | some worker =>
    cases htake : c.broker.take? Job.requests with
    | none =>
      have hrest : c.advances (.handle w) = false := by simp [Cluster.advances, htake]
      refine ⟨l, Step.of_rest hrest, h.atWorker_quiet ?_ ?_⟩
      · intro worker _ hwork
        rw [handleNext_of_none htake]
        exact hwork
      · intro worker _
        rw [handleNext_of_none htake]
        exact h.traffic
    | some taken =>
      obtain ⟨m, b⟩ := taken
      exact h.handle_request bench hw htake

/-! ## An orchestrator takes a report -/

theorem statusId?_report (e : Entry) (q : Payload) :
    Orchestrator.statusId? (e.report q) = some e.job.id.text := by
  show ((q.context.insert Job.idKey (.str e.job.id.text)).get? Job.idKey >>= Json.asStr?) = _
  rw [KeyMap.get?_insert_self]
  rfl

/-- Two jobs of one orchestrator have different futures. -/
theorem Tickets.number_ne {before after : Ledger} {e x : Entry} {i : Nat}
    {futures : List (Future Payload)} {pending : KeyMap Nat}
    (h : Tickets (before ++ e :: after) i futures pending) (he : e.orchestrator = i)
    (hx : x ∈ before ++ after) (hxi : x.orchestrator = i) {n m : Nat} (hn : e.future? = some n)
    (hm : x.future? = some m) : m ≠ n := by
  have hnodup := h.numbered ▸ List.nodup_range (n := futures.length)
  rw [List.filter_append, List.filter_cons_of_pos (by simp [he]), List.filterMap_append,
    List.filterMap_cons, hn] at hnodup
  have hnot := (List.nodup_middle.mp hnodup).notMem
  intro heq
  rw [← List.filterMap_append, ← List.filter_append] at hnot
  exact hnot (List.mem_filterMap.mpr
    ⟨x, List.mem_filter.mpr ⟨hx, by simp [hxi]⟩, by rw [hm, heq]⟩)

/-- The pending future under the identifier of a job is the one of that job. -/
theorem Tickets.pending_of_reported {before after : Ledger} {e : Entry} {i : Nat}
    {futures : List (Future Payload)} {pending : KeyMap Nat}
    (h : Tickets (before ++ e :: after) i futures pending)
    (hids : ((before ++ e :: after).map (·.job.id)).Nodup) (hp : e.stage.isPendingAt i = true) :
    pending.get? e.job.id.text = if e.orchestrator = i then e.future? else none := by
  refine Option.ext fun n => ?_
  have hpending := h.pending e.job.id.text n
  constructor
  · intro hget
    obtain ⟨x, hx, hi, hid, hn, -⟩ := hpending.mp hget
    rcases mem_exchange.mp hx with rfl | hx
    · rw [if_pos hi]
      exact hn
    · exact absurd (JobId.text_injective hid) (id_ne_of_mem hids hx)
  · intro hn
    split at hn
    · rename_i hi
      exact hpending.mpr ⟨e, mem_exchange.mpr (.inl rfl), hi, rfl, hn, hp⟩
    · cases hn

theorem Tickets.settle {before after : Ledger} {e : Entry} {i w n : Nat} {q : Payload}
    {futures : List (Future Payload)} {pending : KeyMap Nat}
    (h : Tickets (before ++ e :: after) i futures pending) (hi : e.orchestrator = i)
    (hn : e.future? = some n) (hids : ((before ++ e :: after).map (·.job.id)).Nodup) :
    Tickets (before ++ e.at_ (.collected w q i) :: after) i
      (futures.set n (.completed (e.report q).payload))
      (pending.erase e.job.id.text) where
  numbered := by
    rw [List.length_set, filterMap_future?_at, h.numbered]
  pending := h.pending_erase hids (by simp [Stage.isPendingAt])
  answers x hx hxi m hm := by
    have hlt : n < futures.length :=
      (List.getElem?_eq_some_iff.mp (h.answers e (mem_exchange.mpr (.inl rfl)) hi n hn)).1
    rcases mem_exchange.mp hx with rfl | hx
    · have hnm : n = m := Option.some.inj (hn.symm.trans hm)
      rw [← hnm, List.getElem?_set_self hlt]
      simp [Entry.answer?, Entry.at_, Entry.report, Stage.resultAt?, hi, Future.completed]
    · have hne : n ≠ m := (h.number_ne hi hx hxi hn hm).symm
      rw [List.getElem?_set_ne hne]
      exact h.answers x (mem_exchange.mpr (.inr hx)) hxi m hm

/-- An orchestrator that takes the report of a job resolves its future, if there is one here. -/
theorem Intake.correlate {before after : Ledger} {e : Entry} {i w : Nat} {q : Payload}
    {o : Orchestrator} (h : Intake (before ++ e :: after) i o) (he : e.stage = .reported w q)
    (hids : ((before ++ e :: after).map (·.job.id)).Nodup) :
    Intake (before ++ e.at_ (.collected w q i) :: after) i
      (o.correlate (e.report q)).1 := by
  have hpending := h.tickets.pending_of_reported hids (by rw [he]; rfl)
  unfold Orchestrator.correlate
  simp only [statusId?_report]
  cases hget : o.pending.get? e.job.id.text with
  | none =>
    -- The job is another orchestrator's, or nobody asked for its future.
    have hnone : ∀ n, e.orchestrator = i → e.future? ≠ some n := by
      intro n hi hn
      rw [hget, if_pos hi, hn] at hpending
      cases hpending
    exact h.exchange (fun _ => by rw [he]; rfl) (fun _ => by rw [he]; rfl) rfl rfl
      (h.tickets.exchange (fun n hi hn => absurd hn (hnone n hi))
        (fun n hi hn => absurd hn (hnone n hi)))
  | some n =>
    rw [hget] at hpending
    have hi : e.orchestrator = i := by
      by_contra hi
      rw [if_neg hi] at hpending
      cases hpending
    have hn : e.future? = some n := by
      rw [if_pos hi] at hpending
      exact hpending.symm
    have hunresolved : o.futures[n]? = some { value? := none } := by
      rw [h.tickets.answers e (mem_exchange.mpr (.inl rfl)) hi n hn, Entry.answer?, he]
      rfl
    have hresolve : Orchestrator.resolve { o with pending := o.pending.erase e.job.id.text } n
        (e.report q).payload =
          .ok { o with
            pending := o.pending.erase e.job.id.text
            futures := o.futures.set n (.completed (e.report q).payload) } := by
      simp only [Orchestrator.resolve, hunresolved]
      rfl
    simp only [hresolve]
    exact h.exchange (fun _ => by rw [he]; rfl) (fun _ => by rw [he]; rfl) rfl rfl
      (h.tickets.settle hi hn hids)

theorem collect_of_not_connected {o : Orchestrator} {b : Broker} (h : b.isConnected = false) :
    Orchestrator.collect o b = { state := o, broker := b } := by
  unfold Orchestrator.collect Broker.subscribe Broker.whileConnected
  rw [h]
  rfl

theorem collect_of_connected {o : Orchestrator} {b : Broker} (h : b.isConnected = true) :
    Orchestrator.collect o b =
      match b.take? Job.reports with
      | none => { state := o, broker := b }
      | some (status, b) =>
        { state := (o.correlate status).1
          broker := (b.acknowledge status).2
          events := [.message (o.correlate status).2] } := by
  unfold Orchestrator.collect Broker.subscribe Broker.whileConnected
  rw [h, if_pos rfl, Job.parse_statusPattern]
  rfl

theorem collect_eq_stay {o : Orchestrator} {b : Broker}
    (h : (b.isConnected && (b.take? Job.reports).isSome) = false) :
    Orchestrator.collect o b = { state := o, broker := b } := by
  cases hconnected : b.isConnected with
  | false => exact collect_of_not_connected hconnected
  | true =>
    cases htake : b.take? Job.reports with
    | none => rw [collect_of_connected hconnected, htake]
    | some taken => simp [hconnected, htake] at h

/-- After an orchestrator has collected a report it remains to say what the broker holds. -/
theorem Describes.collected {before after : Ledger} {e : Entry} {w i : Nat} {q : Payload}
    {o : Orchestrator} {move : Move Orchestrator} (h : Describes (before ++ e :: after) c)
    (ho : c.orchestrators[i]? = some o) (he : e.stage = .reported w q)
    (hmove : (move o c.broker).state = (o.correlate (e.report q)).1)
    (htraffic : Traffic (before ++ e.at_ (.collected w q i) :: after)
      (move o c.broker).broker) :
    Describes (before ++ e.at_ (.collected w q i) :: after) (c.atOrchestrator i move) := by
  refine Describes.atOrchestrator ho ?_ (orchestrator_lt_at h.orchestrator)
    (worker_lt_at h.worker fun v hv => ?_) ?_ ?_ ?_ htraffic
  · rw [map_id_at]
    exact h.ids
  · exact h.worker e (mem_exchange.mpr (.inl rfl)) v (by rw [he]; exact hv)
  · rw [hmove]
    exact (h.intake i o ho).correlate he h.ids
  · intro j oj hne hj
    refine (h.intake j oj hj).exchange (fun _ => by rw [he]; rfl) (fun _ => by rw [he]; rfl)
      rfl rfl ((h.intake j oj hj).tickets.exchange (fun _ _ _ => ?_) (fun _ _ _ => ?_))
    · simp [he, Stage.isPendingAt, Ne.symm hne]
    · simp [he, Stage.resultAt?, Ne.symm hne]
  · intro v worker hv
    exact (h.work v worker hv).exchange (by rw [he]; rfl) (by rw [he]; rfl)

theorem Describes.collect_report (h : l.Describes c) (bench : Workbench) {i : Nat}
    {o : Orchestrator} (ho : c.orchestrators[i]? = some o)
    (hconnected : c.broker.isConnected = true) {m : Message} {b : Broker}
    (htake : c.broker.take? Job.reports = some (m, b)) :
    ∃ l', Step bench c (.collect i) l l' ∧
      l'.Describes (c.atOrchestrator i Orchestrator.collect) := by
  have hadvance : c.advances (.collect i) = true := by
    simp [Cluster.advances, ho, hconnected, htake]
  obtain ⟨before, e, after, rfl, hmessage, hselects, hawaits, hacknowledged, queued, hholds,
    hperm⟩ := h.traffic.take htake
  obtain ⟨w, q, he, rfl⟩ := Entry.message?_eq_some_of_report hmessage hselects
  have hmove := collect_of_connected (o := o) hconnected
  rw [htake] at hmove
  refine ⟨before ++ e.at_ (.collected w q i) :: after,
    Step.of_advance hadvance (.collect before after e w q i b he htake), ?_⟩
  refine h.collected ho he ?_ ?_
  · rw [hmove]
  · rw [hmove]
    refine Traffic.acknowledge hawaits hholds (perm_of_none hperm rfl) ?_
    rw [hacknowledged, h.traffic.acknowledged,
      countP_keep_at (p := Stage.isHandled) (by rw [he]; rfl),
      countP_gain_at (p := Stage.isCollected) (by rw [he]; rfl) rfl]
    omega

theorem Describes.collect (h : l.Describes c) (bench : Workbench) (i : Nat) :
    ∃ l', Step bench c (.collect i) l l' ∧
      l'.Describes (c.atOrchestrator i Orchestrator.collect) := by
  cases hadvance : c.advances (.collect i) with
  | false =>
    refine ⟨l, Step.of_rest hadvance, ?_⟩
    have hmove : ∀ o, c.orchestrators[i]? = some o →
        Orchestrator.collect o c.broker = { state := o, broker := c.broker } := by
      intro o ho
      refine collect_eq_stay ?_
      simpa [Cluster.advances, ho] using hadvance
    refine h.atOrchestrator_quiet ?_ ?_
    · intro o ho hintake
      rw [hmove o ho]
      exact hintake
    · intro o ho
      rw [hmove o ho]
      exact h.traffic
  | true =>
    have hparts : (c.orchestrators[i]?.isSome = true ∧ c.broker.isConnected = true) ∧
        (c.broker.take? Job.reports).isSome = true := by
      simpa [Cluster.advances] using hadvance
    obtain ⟨⟨hi, hconnected⟩, htake⟩ := hparts
    obtain ⟨o, ho⟩ := Option.isSome_iff_exists.mp hi
    obtain ⟨⟨m, b⟩, htake⟩ := Option.isSome_iff_exists.mp htake
    exact h.collect_report bench ho hconnected htake

end Ledger
end Dataflow
