/-
The backlog of an orchestrator.

An orchestrator is asked to take jobs in, dispatches them, collects results and is
stopped, in any order, and whoever shares its broker may do anything in between: every
step is given a broker of its own.  `Occurrence` is what can be told of a step from
outside.  `Backlog` says what an orchestrator holds behind a list of occurrences: its
queue is what was taken in and has not left, in the same order, and its pending futures
are those of the jobs that the list leaves `awaited`.  Every step keeps it, if no
identifier is used for two jobs.
-/
import Dataflow.Proofs.Context.Record
import Dataflow.Proofs.Job.History

namespace Dataflow

/-! ## Steps and occurrences -/

/-- What an orchestrator may do next, with the broker as it finds it. -/
inductive OrchestratorStep where
  /-- A caller asks for a job to be queued. -/
  | submit (job : Job) (wantFuture : Bool)
  | dispatch (b : Broker)
  | collect (b : Broker)
  /-- The steps of a run other than those of its loop. -/
  | beginRun (b : Broker)
  | noteConnection (b : Broker)
  | leaveLoop (b : Broker)
  | releaseRun (b : Broker)
  | signalStop
  /-- The steps of a stop call. -/
  | beginStop
  | releaseStop (call : Nat) (b : Broker)

namespace OrchestratorStep

/-- The identifier of the job that is to be taken in. -/
def jobId? : OrchestratorStep → Option JobId
  | submit job _ => some job.id
  | _ => none

/-- Whether a stop is signalled. -/
def isStop : OrchestratorStep → Bool
  | signalStop => true
  | beginStop => true
  | _ => false

end OrchestratorStep

inductive Occurrence where
  | accepted (job : Job) (wantFuture : Bool)
  /-- A job left the queue and the broker accepted its message. -/
  | published (job : Job)
  /-- A job left the queue and the broker refused its message. -/
  | rejected (job : Job)
  | consumed (status : Message)

namespace Occurrence

def accepted? : Occurrence → Option Job
  | accepted job _ => some job
  | _ => none

/-- The job that left the queue, whatever the broker made of it. -/
def dispatched? : Occurrence → Option Job
  | published job => some job
  | rejected job => some job
  | _ => none

/-- The job that was taken in with a future. -/
def promised? : Occurrence → Option Job
  | accepted job true => some job
  | _ => none

/-- Whether the wait for a job ends here: the broker refused it, or a status message names it. -/
def settles (id : String) : Occurrence → Bool
  | rejected job => job.id.text = id
  | consumed status => Orchestrator.statusId? status = some id
  | _ => false

/-- The jobs that were taken in with a future and for which nothing ended the wait since. -/
def awaited : List Occurrence → List Job
  | [] => []
  | x :: later =>
    (x.promised?.filter fun job => !later.any (settles job.id.text)).toList ++ awaited later

theorem awaited_sublist (history : List Occurrence) :
    (awaited history).Sublist (history.filterMap accepted?) := by
  induction history with
  | nil => exact List.Sublist.refl _
  | cons x later ih =>
    rcases x with ⟨job, _ | _⟩ | job | job | status
    · exact ih.cons job
    · simp only [awaited, promised?, Option.filter_some, List.filterMap_cons, accepted?]
      split
      · exact ih.cons_cons job
      · exact ih.cons job
    · exact ih
    · exact ih
    · exact ih

/-- What happens last may end the wait for jobs and may add one. -/
theorem awaited_concat (history : List Occurrence) (x : Occurrence) :
    awaited (history ++ [x]) =
      (awaited history).filter (fun job => !x.settles job.id.text) ++ x.promised?.toList := by
  induction history with
  | nil => cases h : x.promised? <;> simp [awaited, h]
  | cons y later ih =>
    rw [List.cons_append, awaited, awaited, ih, List.filter_append, List.append_assoc]
    congr 1
    cases y.promised? with
    | none => rfl
    | some job =>
      simp only [Option.filter_some, List.any_append, List.any_cons, List.any_nil, Bool.or_false,
        Bool.not_or]
      cases later.any (settles job.id.text) <;> cases hx : x.settles job.id.text <;> simp [hx]

theorem exists_awaited_concat (history : List Occurrence) (x : Occurrence) (id : String) :
    (∃ job ∈ awaited (history ++ [x]), job.id.text = id) ↔
      (x.settles id = false ∧ ∃ job ∈ awaited history, job.id.text = id) ∨
        ∃ job, x.promised? = some job ∧ job.id.text = id := by
  simp only [awaited_concat, List.mem_append, List.mem_filter, Option.mem_toList]
  constructor
  · rintro ⟨job, ⟨hjob, hsettles⟩ | hjob, rfl⟩
    · exact .inl ⟨by simpa using hsettles, job, hjob, rfl⟩
    · exact .inr ⟨job, hjob, rfl⟩
  · rintro (⟨hsettles, job, hjob, rfl⟩ | ⟨job, hjob, rfl⟩)
    · exact ⟨job, .inl ⟨hjob, by simpa using hsettles⟩, rfl⟩
    · exact ⟨job, .inr hjob, rfl⟩

end Occurrence

namespace Orchestrator

open Occurrence

def act (o : Orchestrator) : OrchestratorStep → Orchestrator
  | .submit job wantFuture => (o.submit job wantFuture).2
  | .dispatch b => (dispatch o b).state
  | .collect b => (collect o b).state
  | .beginRun b => (beginRun o b).state
  | .noteConnection b => (noteConnection o b).state
  | .leaveLoop b => (leaveLoop o b).state
  | .releaseRun b => (releaseRun o b).state
  | .signalStop => o.signalStop
  | .beginStop => o.beginStop
  | .releaseStop call b => (releaseStop call o b).state

/-- The status message that is taken from a broker. -/
def taken? (b : Broker) : Option Message := do
  let subscription ← (b.subscribe Job.statusPattern).toOption
  let (status, _) ← subscription.next? b
  return status

def occurrence? (o : Orchestrator) : OrchestratorStep → Option Occurrence
  | .submit job wantFuture =>
    match (o.submit job wantFuture).1 with
    | .ok _ => some (.accepted job wantFuture)
    | .error _ => none
  | .dispatch b => o.queue.head?.map fun job =>
    match b.publish job.message with
    | .ok _ => .published job
    | .error _ => .rejected job
  | .collect b => (taken? b).map .consumed
  | _ => none

/-- The orchestrator behind some steps. -/
def after (o : Orchestrator) (steps : List OrchestratorStep) : Orchestrator := steps.foldl act o

/-- What happens in some steps. -/
def history (o : Orchestrator) : List OrchestratorStep → List Occurrence
  | [] => []
  | s :: rest => (o.occurrence? s).toList ++ (o.act s).history rest

theorem occurrence?_of_ok {o : Orchestrator} {job : Job} {wantFuture : Bool} {ticket : Ticket}
    (h : (o.submit job wantFuture).1 = .ok ticket) :
    o.occurrence? (.submit job wantFuture) = some (.accepted job wantFuture) := by
  simp only [occurrence?, h]

theorem occurrence?_of_error {o : Orchestrator} {job : Job} {wantFuture : Bool} {e : JobError}
    (h : (o.submit job wantFuture).1 = .error e) :
    o.occurrence? (.submit job wantFuture) = none := by
  simp only [occurrence?, h]

/-! ## What a step changes -/

/-- Only the oldest job leaves the queue, and if the broker refuses it nothing is pending for it. -/
theorem dispatch_of_cons {o : Orchestrator} {job : Job} {rest : List Job}
    (h : o.queue = job :: rest) (b : Broker) :
    (dispatch o b).state.queue = rest ∧
      (dispatch o b).broker = (b.publish job.message).toOption.getD b ∧
      (dispatch o b).state.pending =
        match b.publish job.message with
        | .ok _ => o.pending
        | .error _ => o.pending.erase job.id.text := by
  rw [dispatch, h]
  cases hpublish : b.publish job.message with
  | ok b' => simp only [hpublish, Except.toOption, Option.getD_some, and_self]
  | error e => simp only [hpublish, Except.toOption, Option.getD_none, and_self]

theorem resolve_eq_ok {o o' : Orchestrator} {number : Nat} {value : Payload}
    (h : o.resolve number value = .ok o') : ∃ futures, o' = { o with futures } := by
  unfold resolve at h
  split at h
  · cases h
  · simp only [Except.bind_eq_ok_iff] at h
    obtain ⟨future, -, hok⟩ := h
    cases hok
    exact ⟨_, rfl⟩

/-- A status message touches the futures and takes the job that it names, if it names one, out of
the pending ones.  A job that is not there is no exception. -/
theorem correlate_state (o : Orchestrator) (status : Message) :
    ∃ futures, (o.correlate status).1 =
      { o with
        futures
        pending := (statusId? status).elim o.pending o.pending.erase } := by
  unfold correlate
  cases hid : statusId? status with
  | none => exact ⟨o.futures, rfl⟩
  | some id =>
    cases hpending : o.pending.get? id with
    | none =>
      refine ⟨o.futures, ?_⟩
      rw [Option.elim_some, KeyMap.erase_of_get?_eq_none hpending]
      simp only [hpending]
    | some number =>
      simp only [hpending]
      split
      · rename_i o' hresolve
        obtain ⟨futures, rfl⟩ := resolve_eq_ok hresolve
        exact ⟨futures, rfl⟩
      · exact ⟨o.futures, rfl⟩

theorem collect_state (o : Orchestrator) (b : Broker) :
    (collect o b).state = (taken? b).elim o fun status => (o.correlate status).1 := by
  unfold collect taken?
  cases b.subscribe Job.statusPattern with
  | error e => rfl
  | ok subscription =>
    simp only [Except.toOption, Option.bind_eq_bind, Option.bind_some]
    cases subscription.next? b with
    | none => rfl
    | some taken => rfl

theorem act_of_not_stop {s : OrchestratorStep} (h : s.isStop = false) (o : Orchestrator) :
    (o.act s).settings = o.settings ∧ (o.act s).stopped = o.stopped := by
  cases s with
  | submit job wantFuture =>
    rw [act]
    rcases Bool.eq_false_or_eq_true o.stopped with hstopped | hopen
    · rw [submit_of_stopped hstopped]
      exact ⟨rfl, rfl⟩
    rcases Nat.lt_or_ge o.queue.length o.settings.queueCapacity with hroom | hfull
    · rw [submit_of_room hopen hroom]
      cases wantFuture <;> exact ⟨rfl, rfl⟩
    · rw [submit_of_full hopen hfull]
      exact ⟨rfl, rfl⟩
  | dispatch b =>
    rw [act, dispatch]
    split
    · exact ⟨rfl, rfl⟩
    · dsimp only
      split <;> exact ⟨rfl, rfl⟩
  | collect b =>
    rw [act, collect_state]
    cases taken? b with
    | none => exact ⟨rfl, rfl⟩
    | some status =>
      obtain ⟨futures, hstate⟩ := o.correlate_state status
      rw [Option.elim_some, hstate]
      exact ⟨rfl, rfl⟩
  | beginRun b =>
    rw [act, beginRun]
    split <;> exact ⟨rfl, rfl⟩
  | noteConnection b =>
    rw [act, noteConnection]
    split <;> exact ⟨rfl, rfl⟩
  | leaveLoop b =>
    rw [act, leaveLoop]
    split <;> exact ⟨rfl, rfl⟩
  | releaseRun b =>
    rw [act, releaseRun]
    split
    · split <;> exact ⟨rfl, rfl⟩
    · exact ⟨rfl, rfl⟩
    · exact ⟨rfl, rfl⟩
  | signalStop => cases h
  | beginStop => cases h
  | releaseStop call b =>
    rw [act, releaseStop]
    split
    · split <;> exact ⟨rfl, rfl⟩
    · exact ⟨rfl, rfl⟩
    · exact ⟨rfl, rfl⟩

/-- The settings are for good, and a stop that was signalled is, too. -/
theorem act_frame (o : Orchestrator) (s : OrchestratorStep) :
    (o.act s).settings = o.settings ∧ (o.act s).stopped = (o.stopped || s.isStop) := by
  cases h : s.isStop with
  | false =>
    rw [Bool.or_false]
    exact act_of_not_stop h o
  | true =>
    rw [Bool.or_true]
    cases s with
    | signalStop => exact ⟨rfl, rfl⟩
    | beginStop => exact ⟨rfl, rfl⟩
    | _ => cases h

theorem after_frame (steps : List OrchestratorStep) (o : Orchestrator) :
    (o.after steps).settings = o.settings ∧
      (o.after steps).stopped = (o.stopped || steps.any (·.isStop)) := by
  induction steps generalizing o with
  | nil => exact ⟨rfl, (Bool.or_false _).symm⟩
  | cons s rest ih =>
    obtain ⟨hsettings, hstopped⟩ := ih (o.act s)
    obtain ⟨hsettings', hstopped'⟩ := o.act_frame s
    refine ⟨hsettings.trans hsettings', hstopped.trans ?_⟩
    rw [hstopped', List.any_cons, Bool.or_assoc]

/-! ## The backlog -/

/-- What an orchestrator holds after some occurrences, where the jobs it was asked to take in have
the identifiers `ids`. -/
structure Backlog (ids : List JobId) (history : List Occurrence) (o : Orchestrator) : Prop where
  bounded : o.queue.length ≤ o.settings.queueCapacity
  ids : ((history.filterMap accepted?).map (·.id)).Sublist ids
  order : history.filterMap accepted? = history.filterMap dispatched? ++ o.queue
  pending : ∀ id, o.pending.contains id = true ↔ ∃ job ∈ awaited history, job.id.text = id

namespace Backlog

variable {ids : List JobId} {history : List Occurrence} {o o' : Orchestrator}

theorem fresh (settings : OrchestratorSettings) : Backlog [] [] { settings } where
  bounded := Nat.zero_le _
  ids := List.Sublist.refl _
  order := rfl
  pending _ := ⟨nofun, fun ⟨_, hjob, _⟩ => absurd hjob List.not_mem_nil⟩

/-- A step without an occurrence leaves the queue and the pending futures as they are. -/
theorem unseen (h : Backlog ids history o) (hsettings : o'.settings = o.settings)
    (hqueue : o'.queue = o.queue) (hpending : o'.pending = o.pending) :
    Backlog ids (history ++ []) o' := by
  rw [List.append_nil]
  constructor
  · rw [hqueue, hsettings]
    exact h.bounded
  · exact h.ids
  · rw [hqueue]
    exact h.order
  · rw [hpending]
    exact h.pending

/-- A job of which nobody has heard is not pending. -/
theorem get?_of_fresh (h : Backlog ids history o) {job : Job} (hfresh : job.id ∉ ids) :
    o.pending.get? job.id.text = none := by
  refine o.pending.contains_eq_false_iff.mp (Bool.eq_false_iff.mpr fun hcontains => ?_)
  obtain ⟨x, hx, hid⟩ := (h.pending _).mp hcontains
  have hmem : x.id ∈ ids :=
    h.ids.subset (List.mem_map_of_mem ((awaited_sublist history).subset hx))
  exact hfresh (JobId.text_injective hid ▸ hmem)

theorem append (h : Backlog ids history o) (more : List JobId) :
    Backlog (ids ++ more) history o :=
  { h with ids := h.ids.trans (List.sublist_append_left ids more) }

theorem accept (h : Backlog ids history o) (hroom : o.queue.length < o.settings.queueCapacity)
    (job : Job) (wantFuture : Bool) (futures : List (Future Payload)) (number : Nat) :
    Backlog (ids ++ [job.id]) (history ++ [.accepted job wantFuture])
      { o with
        queue := o.queue ++ [job]
        futures
        pending := if wantFuture then o.pending.insert job.id.text number else o.pending } where
  bounded := by
    rw [List.length_append, List.length_singleton]
    exact hroom
  ids := by
    rw [List.filterMap_append, List.map_append]
    exact h.ids.append (List.Sublist.refl _)
  order := by
    rw [List.filterMap_append, List.filterMap_append, h.order, List.append_assoc]
    simp [accepted?, dispatched?]
  pending id := by
    rw [exists_awaited_concat, ← h.pending]
    cases wantFuture with
    | false => simp [settles, promised?]
    | true =>
      simp only [KeyMap.contains, if_true, KeyMap.get?_insert, settles, promised?]
      split
      · rename_i hid
        simp [hid]
      · rename_i hid
        simp [hid]

/-- A job leaves the queue, or none does, and the wait ends for those jobs that are settled. -/
theorem settle (h : Backlog ids history o) {x : Occurrence} (hx : x.accepted? = none)
    (hsettings : o'.settings = o.settings) (hqueue : o.queue = x.dispatched?.toList ++ o'.queue)
    (hpending : ∀ id, o'.pending.get? id = if x.settles id then none else o.pending.get? id) :
    Backlog ids (history ++ [x]) o' := by
  have hnone : x.promised? = none := by
    rcases x with ⟨job, _ | _⟩ | job | job | status
    · rfl
    · cases hx
    all_goals rfl
  have haccepted : (history ++ [x]).filterMap accepted? = history.filterMap accepted? := by
    rw [List.filterMap_append, List.filterMap_cons, hx, List.filterMap_nil, List.append_nil]
  constructor
  · rw [hsettings]
    refine Nat.le_trans ?_ h.bounded
    rw [hqueue, List.length_append]
    exact Nat.le_add_left _ _
  · rw [haccepted]
    exact h.ids
  · rw [haccepted, h.order, hqueue, List.filterMap_append, List.append_assoc]
    cases hd : x.dispatched? <;> simp [hd]
  · intro id
    rw [exists_awaited_concat, ← h.pending, hnone, KeyMap.contains, hpending]
    cases x.settles id with
    | false => simp [KeyMap.contains]
    | true => simp

theorem submit (h : Backlog ids history o) (job : Job) (wantFuture : Bool)
    (hfresh : job.id ∉ ids) :
    Backlog (ids ++ [job.id]) (history ++ (o.occurrence? (.submit job wantFuture)).toList)
      (o.submit job wantFuture).2 := by
  rcases Bool.eq_false_or_eq_true o.stopped with hstopped | hopen
  · have hrefused := submit_of_stopped hstopped job wantFuture
    rw [occurrence?_of_error (congrArg Prod.fst hrefused), hrefused]
    exact (List.append_nil history).symm ▸ h.append [job.id]
  rcases Nat.lt_or_ge o.queue.length o.settings.queueCapacity with hroom | hfull
  · have haccepted := submit_of_room hopen hroom job wantFuture
    cases wantFuture with
    | true =>
      rw [occurrence?_of_ok (congrArg Prod.fst haccepted), haccepted]
      exact h.accept hroom job true _ o.futures.length
    | false =>
      rw [occurrence?_of_ok (congrArg Prod.fst haccepted), haccepted]
      exact h.accept hroom job false o.futures 0
  · have hrefused := submit_of_full hopen hfull job wantFuture
    rw [occurrence?_of_error (congrArg Prod.fst hrefused), hrefused,
      KeyMap.erase_of_get?_eq_none (h.get?_of_fresh hfresh)]
    exact (List.append_nil history).symm ▸ h.append [job.id]

theorem dispatch (h : Backlog ids history o) (b : Broker) :
    Backlog ids (history ++ (o.occurrence? (.dispatch b)).toList) (dispatch o b).state := by
  have hsettings := (act_of_not_stop (s := .dispatch b) rfl o).1
  unfold occurrence?
  cases hqueue : o.queue with
  | nil => simpa [Orchestrator.dispatch, hqueue] using h
  | cons job rest =>
    obtain ⟨hrest, -, hpending⟩ := dispatch_of_cons hqueue b
    cases hpublish : b.publish job.message with
    | ok b' =>
      simp only [hpublish] at hpending
      simp only [List.head?_cons, Option.map_some, hpublish]
      refine h.settle (x := .published job) rfl hsettings ?_ fun id => ?_
      · rw [hrest, hqueue]
        rfl
      · rw [hpending]
        rfl
    | error e =>
      simp only [hpublish] at hpending
      simp only [List.head?_cons, Option.map_some, hpublish]
      refine h.settle (x := .rejected job) rfl hsettings ?_ fun id => ?_
      · rw [hrest, hqueue]
        rfl
      · rw [hpending, KeyMap.get?_erase]
        simp [settles]

theorem collect (h : Backlog ids history o) (b : Broker) :
    Backlog ids (history ++ (o.occurrence? (.collect b)).toList) (collect o b).state := by
  rw [collect_state]
  show Backlog ids (history ++ ((taken? b).map .consumed).toList) _
  cases taken? b with
  | none => exact (List.append_nil history).symm ▸ h
  | some status =>
    obtain ⟨futures, hstate⟩ := o.correlate_state status
    rw [Option.elim_some, hstate]
    refine h.settle (x := .consumed status) rfl rfl rfl fun id => ?_
    cases hid : statusId? status with
    | none => simp [settles, hid]
    | some named => simp [settles, hid, KeyMap.get?_erase]

/-- The steps that have nothing to do with jobs. -/
theorem quiet (h : Backlog ids history o) {move : Move Orchestrator} (hmove : Quiet move)
    {b : Broker} (hsettings : (move o b).state.settings = o.settings) :
    Backlog ids (history ++ []) (move o b).state :=
  h.unseen hsettings (hmove.queue o b) (hmove.pending o b)

theorem act (h : Backlog ids history o) (s : OrchestratorStep)
    (hfresh : ∀ id, s.jobId? = some id → id ∉ ids) :
    Backlog (ids ++ s.jobId?.toList) (history ++ (o.occurrence? s).toList) (o.act s) := by
  have hsettings := (o.act_frame s).1
  cases s with
  | submit job wantFuture => exact h.submit job wantFuture (hfresh job.id rfl)
  | dispatch b => exact (h.dispatch b).append []
  | collect b => exact (h.collect b).append []
  | beginRun b => exact (h.quiet quiet_beginRun hsettings).append []
  | noteConnection b => exact (h.quiet quiet_noteConnection hsettings).append []
  | leaveLoop b => exact (h.quiet quiet_leaveLoop hsettings).append []
  | releaseRun b => exact (h.quiet quiet_releaseRun hsettings).append []
  | signalStop => exact (h.unseen (show o.signalStop.settings = _ from rfl) rfl rfl).append []
  | beginStop => exact (h.unseen (show o.beginStop.settings = _ from rfl) rfl rfl).append []
  | releaseStop call b => exact (h.quiet (quiet_releaseStop call) hsettings).append []

/-- The induction is on the steps that are still to come: each makes the history longer at its
end, and its identifier is not among those before it. -/
theorem after (steps : List OrchestratorStep) {ids : List JobId} {history : List Occurrence}
    {o : Orchestrator} (h : Backlog ids history o)
    (hids : (ids ++ steps.filterMap (·.jobId?)).Nodup) :
    Backlog (ids ++ steps.filterMap (·.jobId?)) (history ++ o.history steps) (o.after steps) := by
  induction steps generalizing ids history o with
  | nil => simpa [Orchestrator.history, Orchestrator.after] using h
  | cons s rest ih =>
    have hsplit : ids ++ (s :: rest).filterMap (·.jobId?) =
        (ids ++ s.jobId?.toList) ++ rest.filterMap (·.jobId?) := by
      cases hid : s.jobId? <;> simp [hid]
    rw [hsplit] at hids ⊢
    have hfresh : ∀ id, s.jobId? = some id → id ∉ ids := by
      intro id hid hmem
      rw [hid, Option.toList_some] at hids
      exact (List.nodup_append.mp (List.nodup_append.mp hids).1).2.2 id hmem id
        List.mem_cons_self rfl
    have hrest := ih (h.act s hfresh) hids
    rw [List.append_assoc history] at hrest
    exact hrest

/-- The futures that are pending are counted by the history. -/
theorem size_eq (h : Backlog ids history o) (hids : ids.Nodup) :
    o.pending.size = (awaited history).length := by
  have hnodup : ((awaited history).map fun job => job.id.text).Nodup := by
    have hsub := ((awaited_sublist history).map (·.id)).trans h.ids
    have := (hids.sublist hsub).map JobId.text_injective
    rwa [List.map_map] at this
  have hperm : o.pending.keys.Perm ((awaited history).map fun job => job.id.text) := by
    refine (List.perm_ext_iff_of_nodup o.pending.nodup_keys hnodup).mpr fun id => ?_
    rw [o.pending.mem_keys_iff, h.pending, List.mem_map]
  have hlength := hperm.length_eq
  rwa [List.length_map, KeyMap.keys, List.length_map] at hlength

end Backlog

/-- An orchestrator takes jobs in like a bounded queue, whatever it is asked to do and whatever
becomes of its broker in between.  The jobs that were taken in leave the queue in the same order,
each once.  A job is taken in if there is room for it and no stop was signalled; otherwise the
orchestrator is what it was.  As many futures are pending as there are jobs that were taken in with
one and were neither rejected nor named by a status message since. -/
theorem backlog_follows_history (settings : OrchestratorSettings) (steps : List OrchestratorStep)
    (hids : (steps.filterMap (·.jobId?)).Nodup) :
    let start : Orchestrator := { settings }
    let o := start.after steps
    let history := start.history steps
    (1 ≤ settings.queueCapacity ∧ o.queue.length ≤ settings.queueCapacity) ∧
    (history.filterMap accepted? = history.filterMap dispatched? ++ o.queue ∧
      ((history.filterMap accepted?).map (·.id)).Nodup) ∧
    (∀ (b : Broker) (job : Job) (rest : List Job), o.queue = job :: rest →
      (dispatch o b).state.queue = rest ∧
        (dispatch o b).broker = (b.publish job.message).toOption.getD b) ∧
    o.pending.size = (awaited history).length ∧
    ∀ (job : Job) (wantFuture : Bool), job.id ∉ steps.filterMap (·.jobId?) →
      if steps.any (·.isStop) then o.submit job wantFuture = (.error .queueClosed, o)
      else if settings.queueCapacity ≤ o.queue.length then
        o.submit job wantFuture = (.error (.queueFull settings.queueCapacity), o)
      else
        (o.submit job wantFuture).1 =
            .ok { id := job.id, future? := if wantFuture then some o.futures.length else none } ∧
          (o.submit job wantFuture).2.queue = o.queue ++ [job] := by
  intro start o history
  have h : Backlog (steps.filterMap (·.jobId?)) history o :=
    Backlog.after steps (.fresh settings) hids
  obtain ⟨hsettings, hstopped⟩ := after_frame steps start
  have hbounded := h.bounded
  rw [show o.settings = settings from hsettings] at hbounded
  refine ⟨⟨Nat.le_max_right _ _, hbounded⟩, ⟨h.order, hids.sublist h.ids⟩, ?_,
    h.size_eq hids, ?_⟩
  · intro b job rest hqueue
    obtain ⟨hrest, hbroker, -⟩ := dispatch_of_cons hqueue b
    exact ⟨hrest, hbroker⟩
  · intro job wantFuture hfresh
    have hcapacity : o.settings.queueCapacity = settings.queueCapacity :=
      congrArg OrchestratorSettings.queueCapacity hsettings
    cases hstop : steps.any (·.isStop) with
    | true => exact submit_of_stopped (hstopped.trans hstop) job wantFuture
    | false =>
      have hopen : o.stopped = false := hstopped.trans hstop
      rw [if_neg Bool.false_ne_true]
      split
      · rename_i hfull
        rw [← hcapacity] at hfull ⊢
        rw [submit_of_full hopen hfull, KeyMap.erase_of_get?_eq_none (h.get?_of_fresh hfresh)]
      · rename_i hroom
        rw [← hcapacity] at hroom
        rw [submit_of_room hopen (Nat.lt_of_not_le hroom)]
        cases wantFuture <;> exact ⟨rfl, rfl⟩

/-- The second job finds the queue full, although a future was wanted, and only the first one is
pending. -/
theorem backlog_follows_history_of_full :
    let other : Job := { Cluster.errand with id := .ofRandom 1 }
    let start : Orchestrator := { settings := { queueCapacity? := some 1 } }
    let steps : List OrchestratorStep := [.submit Cluster.errand true, .submit other true]
    (steps.filterMap (·.jobId?)).Nodup ∧
      start.history steps = [.accepted Cluster.errand true] ∧
      (start.after steps).queue = [Cluster.errand] ∧
      (start.after steps).pending.size = 1 ∧
      (start.after steps).submit { other with id := .ofRandom 2 } true =
        (.error (.queueFull 1), start.after steps) := by
  intro other start steps
  have hids : (steps.filterMap (·.jobId?)).Nodup := by decide
  have hhistory : start.history steps = [.accepted Cluster.errand true] := rfl
  have hqueue : (start.after steps).queue = [Cluster.errand] := rfl
  obtain ⟨-, -, -, hsize, hnext⟩ :=
    backlog_follows_history { queueCapacity? := some 1 } steps hids
  refine ⟨hids, hhistory, hqueue, hsize.trans (congrArg (List.length ∘ awaited) hhistory), ?_⟩
  exact hnext { other with id := .ofRandom 2 } true (by decide)

end Orchestrator
end Dataflow
