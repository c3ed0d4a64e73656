/-
No job is lost and none is done twice.

The counters of orchestrators, workers and the broker count entries of the ledger by
their stages, and the stages exclude each other, so the counters add up.  Messages are
accounted for one by one: those that are queued stand for entries that are requested or
reported, and those that were taken, over the whole run, stand for the rest.  As no two
jobs share a channel and no job goes back, no message comes twice.
-/
import Dataflow.Proofs.Job.History
import Mathlib.Data.List.Induction

namespace Dataflow

/-! ## Counting -/

/-- What a predicate counts is what two others count that share it among them. -/
theorem countP_split {α : Type} {p q r : α → Bool} {l : List α}
    (h : ∀ x ∈ l, (r x).toNat = (p x).toNat + (q x).toNat) :
    l.countP r = l.countP p + l.countP q := by
  induction l with
  | nil => rfl
  | cons x rest ih =>
    have hx := h x List.mem_cons_self
    have hrest := ih fun y hy => h y (List.mem_cons_of_mem _ hy)
    rw [List.countP_cons, List.countP_cons, List.countP_cons, hrest]
    cases hr : r x <;> cases hp : p x <;> cases hq : q x <;> simp [hr, hp, hq] at hx ⊢ <;> omega

/-- Components that each count the things with their own number count together the things that
have the number of one of them. -/
theorem sum_countP_lt {α β : Type} (count : α → Nat) (key : β → Option Nat) {l : List β}
    (xs : List α) (hcount : ∀ i x, xs[i]? = some x → count x = l.countP fun e => key e = some i) :
    (xs.map count).sum = l.countP fun e => (key e).any (· < xs.length) := by
  -- From the end: the last component has as its number how many stand before it.
  induction xs using List.reverseRecOn with
  | nil =>
    rw [eq_comm]
    refine List.countP_eq_zero.mpr fun e _ => ?_
    cases key e <;> simp
  | append_singleton xs x ih =>
    have hlast : count x = l.countP fun e => key e = some xs.length :=
      hcount xs.length x (by simp)
    have hinit := ih fun i y hi => hcount i y <| by
      rw [List.getElem?_append_left (List.getElem?_eq_some_iff.mp hi).1]
      exact hi
    rw [List.map_append, List.sum_append, hinit, List.map_singleton, List.sum_singleton, hlast]
    refine (countP_split fun e _ => ?_).symm
    rw [List.length_append, List.length_singleton]
    cases key e with
    | none => rfl
    | some i =>
      show (decide (i < xs.length + 1)).toNat =
        (decide (i < xs.length)).toNat + (decide (some i = some xs.length)).toNat
      have hsome : (some i = some xs.length) ↔ i = xs.length :=
        ⟨Option.some.inj, congrArg some⟩
      rw [decide_eq_decide.mpr hsome]
      rcases Nat.lt_trichotomy i xs.length with hlt | rfl | hgt
      · rw [decide_eq_true hlt, decide_eq_true (Nat.lt_succ_of_lt hlt),
          decide_eq_false (Nat.ne_of_lt hlt)]
        rfl
      · rw [decide_eq_true (Nat.lt_succ_self _), decide_eq_false (Nat.lt_irrefl _),
          decide_eq_true rfl]
        rfl
      · rw [decide_eq_false (by omega : ¬ i < xs.length + 1),
          decide_eq_false (Nat.lt_asymm hgt), decide_eq_false (Nat.ne_of_gt hgt)]
        rfl

theorem sum_countP {α β : Type} (count : α → Nat) (key : β → Option Nat) {l : List β}
    {xs : List α} (hcount : ∀ i x, xs[i]? = some x → count x = l.countP fun e => key e = some i)
    (hkey : ∀ e ∈ l, ∀ i, key e = some i → i < xs.length) :
    (xs.map count).sum = l.countP fun e => (key e).isSome := by
  rw [sum_countP_lt count key xs hcount]
  refine List.countP_congr fun e he => ?_
  cases hk : key e with
  | none => simp
  | some i => simp [hkey e he i hk]

namespace Cluster

theorem completed_eq_sum (c : Cluster) : c.completed = (c.workers.map (·.completed)).sum := by
  rw [completed, List.sum_eq_foldr, List.foldr_map]

theorem failed_eq_sum (c : Cluster) : c.failed = (c.workers.map (·.failed)).sum := by
  rw [failed, List.sum_eq_foldr, List.foldr_map]

end Cluster

namespace Stage

def isCompleted (s : Stage) : Bool := s.result?.isSome

def isFailed (s : Stage) : Bool := s.isHandled && !s.isCompleted

def completer? (s : Stage) : Option Nat := if s.isCompleted then s.worker? else none

def failer? (s : Stage) : Option Nat := if s.isCompleted then none else s.worker?

theorem isCompletedBy_eq (s : Stage) (w : Nat) : s.isCompletedBy w = (s.completer? = some w) := by
  cases s <;> simp [isCompletedBy, completer?, isCompleted, result?, worker?]

theorem isFailedBy_eq (s : Stage) (w : Nat) : s.isFailedBy w = (s.failer? = some w) := by
  cases s <;> simp [isFailedBy, failer?, isCompleted, result?, worker?]

end Stage

namespace Ledger

variable {l : Ledger} {c : Cluster}

theorem Describes.sum_dispatched (h : l.Describes c) :
    (c.orchestrators.map (·.dispatched)).sum = l.countP (·.stage.isDispatched) := by
  rw [sum_countP Orchestrator.dispatched fun e : Entry =>
    if e.stage.isDispatched then some e.orchestrator else none]
  · refine List.countP_congr fun e _ => ?_
    cases e.stage.isDispatched <;> simp
  · intro i o ho
    rw [(h.intake i o ho).dispatched]
    refine List.countP_congr fun e _ => ?_
    cases e.stage.isDispatched <;> simp
  · intro e he i hi
    split at hi
    · cases hi
      exact h.orchestrator e he
    · cases hi

theorem Describes.completed (h : l.Describes c) :
    c.completed = l.countP (·.stage.isCompleted) := by
  rw [Cluster.completed_eq_sum, sum_countP Worker.completed fun e : Entry => e.stage.completer?]
  · refine List.countP_congr fun e _ => ?_
    cases e.stage <;> simp [Stage.completer?, Stage.isCompleted, Stage.result?, Stage.worker?]
  · intro w worker hw
    rw [(h.work w worker hw).completed]
    refine List.countP_congr fun e _ => ?_
    rw [Stage.isCompletedBy_eq]
    simp
  · intro e he w hw
    unfold Stage.completer? at hw
    split at hw
    · exact h.worker e he w hw
    · cases hw

theorem Describes.failed (h : l.Describes c) : c.failed = l.countP (·.stage.isFailed) := by
  rw [Cluster.failed_eq_sum, sum_countP Worker.failed fun e : Entry => e.stage.failer?]
  · refine List.countP_congr fun e _ => ?_
    cases e.stage <;> simp [Stage.failer?, Stage.isFailed, Stage.isHandled, Stage.isCompleted,
      Stage.result?, Stage.worker?]
  · intro w worker hw
    rw [(h.work w worker hw).failed]
    refine List.countP_congr fun e _ => ?_
    rw [Stage.isFailedBy_eq]
    simp
  · intro e he w hw
    unfold Stage.failer? at hw
    split at hw
    · cases hw
    · exact h.worker e he w hw

/-! ## Queued messages -/

theorem any_message? {e : Entry} {p : Message → Bool} {m : Message} (h : e.message? = some m) :
    e.message?.any p = p m := by
  rw [h, Option.any_some]

theorem message?_of_requested {e : Entry} (h : e.stage = .requested) :
    e.message? = some e.request := by
  rw [Entry.message?, h]

theorem message?_of_reported {e : Entry} {w : Nat} {q : Payload} (h : e.stage = .reported w q) :
    e.message? = some (e.report q) := by
  rw [Entry.message?, h]

theorem message?_request (e : Entry) :
    (e.message?.any fun m => Job.requests.selects m.channel) = e.stage.isRequested := by
  cases hstage : e.stage with
  | requested =>
    rw [any_message? (message?_of_requested hstage)]
    exact Job.requests_selects_channel e.job.id
  | reported w q =>
    rw [any_message? (message?_of_reported hstage)]
    exact Job.requests_selects_statusChannel e.job.id
  | _ => simp [Entry.message?, hstage, Stage.isRequested]

theorem message?_report (e : Entry) :
    (e.message?.any fun m => Job.reports.selects m.channel) = e.stage.isReported := by
  cases hstage : e.stage with
  | requested =>
    rw [any_message? (message?_of_requested hstage)]
    exact Job.reports_selects_channel e.job.id
  | reported w q =>
    rw [any_message? (message?_of_reported hstage)]
    exact Job.reports_selects_statusChannel e.job.id
  | _ => simp [Entry.message?, hstage, Stage.isReported]

end Ledger

/-- How many queued messages a pattern selects. -/
def Broker.queuedFor (b : Broker) (pattern : ChannelPattern) : Nat :=
  b.waiting.countP fun q => pattern.selects q.message.channel

namespace Ledger

variable {l : Ledger} {c : Cluster}

theorem Traffic.waiting {b : Broker} (h : l.Traffic b) :
    (b.waiting.map (·.message)).Perm (l.filterMap Entry.message?) := by
  obtain ⟨queued, hholds, hperm⟩ := h.messages
  exact (hholds.waiting_perm.map _).trans hperm

theorem Traffic.queuedFor {b : Broker} (h : l.Traffic b) (pattern : ChannelPattern) :
    b.queuedFor pattern =
      l.countP fun e => e.message?.any fun m => pattern.selects m.channel := by
  have hcount := h.waiting.countP_eq fun m => pattern.selects m.channel
  rw [List.countP_map, List.countP_filterMap] at hcount
  refine Eq.trans hcount (List.countP_congr fun e _ => ?_)
  cases e.message? <;> simp

theorem filterMap_of_others {before after : Ledger} {e : Entry} {β : Type} {f : Entry → Option β}
    (h : ∀ x ∈ before ++ after, f x = none) :
    (before ++ e :: after).filterMap f = (f e).toList := by
  have hbefore : before.filterMap f = [] :=
    List.filterMap_eq_nil_iff.mpr fun x hx => h x (List.mem_append_left _ hx)
  have hafter : after.filterMap f = [] :=
    List.filterMap_eq_nil_iff.mpr fun x hx => h x (List.mem_append_right _ hx)
  rw [List.filterMap_append, hbefore, List.filterMap_cons, hafter]
  cases f e <;> rfl

theorem Traffic.queue {before after : Ledger} {e : Entry} {b : Broker}
    (h : Traffic (before ++ e :: after) b) {channel : String}
    (hothers : ∀ x ∈ before ++ after, ∀ m, x.message? = some m → m.channel ≠ channel) :
    (b.queue channel).map (·.message) = (e.message?.filter (·.channel = channel)).toList := by
  obtain ⟨queued, hholds, hperm⟩ := h.messages
  have hqueue : (b.queue channel).map (·.message) =
      (queued.map (·.message)).filter (·.channel = channel) := by
    rw [hholds.queue_eq, List.filter_map]
    rfl
  have hone : ((before ++ e :: after).filterMap Entry.message?).filter (·.channel = channel) =
      (e.message?.filter (·.channel = channel)).toList := by
    rw [List.filter_filterMap]
    refine filterMap_of_others fun x hx => ?_
    cases hm : x.message? with
    | none => rfl
    | some m => simp [hothers x hx m hm]
  have hfilter := hperm.filter (·.channel = channel)
  rw [hone] at hfilter
  rw [hqueue]
  cases hm : e.message?.filter (·.channel = channel) with
  | none =>
    rw [hm] at hfilter
    exact hfilter.eq_nil
  | some m =>
    rw [hm] at hfilter
    exact hfilter.eq_singleton

end Ledger

/-- The two channels of a job. -/
def Entry.Owns (e : Entry) (channel : String) : Prop :=
  channel = Job.channel e.job.id.text ∨ channel = Job.statusChannel e.job.id.text

/-- No channel belongs to two jobs. -/
theorem Entry.Owns.id_eq {x e : Entry} {channel : String} (hx : x.Owns channel)
    (he : e.Owns channel) : x.job.id = e.job.id := by
  rcases hx with rfl | rfl <;> rcases he with h | h
  · exact JobId.text_injective (Job.channel_injective h)
  · exact absurd h (Job.channel_ne_statusChannel _ _)
  · exact absurd h.symm (Job.channel_ne_statusChannel _ _)
  · exact JobId.text_injective (Job.statusChannel_injective h)

/-- A job is where its stage says, and nowhere else. -/
structure Entry.Placed (e : Entry) (c : Cluster) : Prop where
  waiting : ∀ (i : Nat) (o : Orchestrator), c.orchestrators[i]? = some o →
    o.queue.filter (·.id = e.job.id) =
      if e.orchestrator = i ∧ e.stage.isWaiting = true then [e.job] else []
  requested : (c.broker.queue (Job.channel e.job.id.text)).map (·.message) =
    match e.stage with
    | .requested => [e.request]
    | _ => []
  reported : (c.broker.queue (Job.statusChannel e.job.id.text)).map (·.message) =
    match e.stage with
    | .reported _ q => [e.report q]
    | _ => []

namespace Ledger

variable {l : Ledger} {c : Cluster}

theorem owns_of_message? {e : Entry} {m : Message} (h : e.message? = some m) :
    e.Owns m.channel := by
  unfold Entry.message? at h
  split at h
  · cases h
    exact .inl rfl
  · cases h
    exact .inr rfl
  · cases h

theorem Intake.filter_id {before after : Ledger} {e : Entry} {i : Nat} {o : Orchestrator}
    (h : Intake (before ++ e :: after) i o)
    (hids : ((before ++ e :: after).map (·.job.id)).Nodup) :
    o.queue.filter (·.id = e.job.id) =
      if e.orchestrator = i ∧ e.stage.isWaiting = true then [e.job] else [] := by
  have hqueue : o.queue.filter (·.id = e.job.id) =
      (before ++ e :: after).filterMap fun x =>
        if (x.orchestrator = i ∧ x.stage.isWaiting = true) ∧ x.job.id = e.job.id then some x.job
        else none := by
    rw [h.queue, List.filter_map, List.filter_filter, ← List.filterMap_eq_map,
      List.filterMap_filter]
    refine List.filterMap_congr fun x _ => ?_
    simp [and_comm]
  rw [hqueue, filterMap_of_others]
  · by_cases hwaiting : e.orchestrator = i ∧ e.stage.isWaiting = true
    · simp [hwaiting]
    · simp [hwaiting]
  · intro x hx
    simp [id_ne_of_mem hids hx]

theorem Describes.placed (h : l.Describes c) {e : Entry} (he : e ∈ l) : e.Placed c := by
  obtain ⟨before, after, rfl⟩ := List.append_of_mem he
  have hothers : ∀ x ∈ before ++ after, ∀ m, x.message? = some m → ¬ e.Owns m.channel :=
    fun x hx m hm howns => id_ne_of_mem h.ids hx ((owns_of_message? hm).id_eq howns)
  constructor
  · exact fun i o ho => (h.intake i o ho).filter_id h.ids
  · rw [h.traffic.queue fun x hx m hm heq => hothers x hx m hm (.inl heq)]
    cases hstage : e.stage with
    | requested =>
      rw [message?_of_requested hstage, Option.filter_some, if_pos]
      · rfl
      · exact decide_eq_true rfl
    | reported w q =>
      rw [message?_of_reported hstage, Option.filter_some, if_neg]
      · rfl
      · rw [decide_eq_true_iff]
        exact (Job.channel_ne_statusChannel _ _).symm
    | _ => simp [Entry.message?, hstage]
  · rw [h.traffic.queue fun x hx m hm heq => hothers x hx m hm (.inr heq)]
    cases hstage : e.stage with
    | requested =>
      rw [message?_of_requested hstage, Option.filter_some, if_neg]
      · rfl
      · rw [decide_eq_true_iff]
        exact Job.channel_ne_statusChannel _ _
    | reported w q =>
      rw [message?_of_reported hstage, Option.filter_some, if_pos]
      · rfl
      · exact decide_eq_true rfl
    | _ => simp [Entry.message?, hstage]

end Ledger

/-! ## Messages that were taken -/

/-- The messages that were taken from the broker for a job. -/
def Entry.taken (e : Entry) : List Message :=
  match e.stage with
  | .failed _ => [e.request]
  | .reported _ _ => [e.request]
  | .collected _ q _ => [e.request, e.report q]
  | _ => []

namespace Cluster

/-- The message that an action takes from the broker. -/
def taken? (c : Cluster) : ClusterAction → Option Message
  | .handle w =>
    if c.workers[w]?.isSome then (c.broker.take? Job.requests).map (·.1) else none
  | .collect i =>
    if c.orchestrators[i]?.isSome && c.broker.isConnected then
      (c.broker.take? Job.reports).map (·.1)
    else none
  | _ => none

/-- The orchestrator and the job that an action lets it take in. -/
def accepted? (c : Cluster) : ClusterAction → Option (Nat × Job)
  | .enqueue i job wantFuture =>
    if (c.enqueue i job wantFuture).toBool then some (i, job) else none
  | _ => none

/-- What is there to be noted about the first steps of a run, one after another. -/
def record {α : Type} (note : Cluster → ClusterAction → Option α) (c : Cluster)
    (steps : List (Workbench × ClusterAction)) : Nat → List α
  | 0 => []
  | t + 1 =>
    record note c steps t ++ (steps[t]?.bind fun s => note (c.moment steps t) s.2).toList

theorem taken?_eq_none {c : Cluster} {a : ClusterAction} (h : c.advances a = false) :
    c.taken? a = none := by
  cases a with
  | handle w =>
    rw [taken?]
    refine ite_eq_right_iff.mpr fun hw => ?_
    simp only [advances, hw, Bool.true_and, Option.isSome_eq_false_iff,
      Option.isNone_iff_eq_none] at h
    rw [h]
    rfl
  | collect i =>
    rw [taken?]
    refine ite_eq_right_iff.mpr fun hi => ?_
    simp only [advances, hi, Bool.true_and, Option.isSome_eq_false_iff,
      Option.isNone_iff_eq_none] at h
    rw [h]
    rfl
  | _ => rfl

theorem accepted?_eq_none {c : Cluster} {a : ClusterAction} (h : c.advances a = false) :
    c.accepted? a = none := by
  cases a with
  | enqueue i job wantFuture => exact if_neg (Bool.not_eq_true _ ▸ h)
  | _ => rfl

end Cluster

namespace Ledger

variable {bench : Workbench} {c : Cluster} {a : ClusterAction} {l l' : Ledger}

theorem taken_exchange {before after : Ledger} {e e' : Entry} {m? : Option Message}
    (h : e'.taken = e.taken ++ m?.toList) :
    ((before ++ e' :: after).flatMap Entry.taken).Perm
      ((before ++ e :: after).flatMap Entry.taken ++ m?.toList) := by
  rw [List.flatMap_append, List.flatMap_append, List.flatMap_cons, List.flatMap_cons, h,
    List.append_assoc, List.append_assoc, List.append_assoc]
  exact (List.perm_append_comm.append_left _).append_left _

theorem taken?_handle {w : Nat} {m : Message} {b : Broker} (h : c.advances (.handle w) = true)
    (htake : c.broker.take? Job.requests = some (m, b)) : c.taken? (.handle w) = some m := by
  have hw : c.workers[w]?.isSome = true := (Bool.and_eq_true_iff.mp h).1
  rw [Cluster.taken?, if_pos hw, htake]
  rfl

theorem taken?_collect {i : Nat} {m : Message} {b : Broker} (h : c.advances (.collect i) = true)
    (htake : c.broker.take? Job.reports = some (m, b)) : c.taken? (.collect i) = some m := by
  have hi := (Bool.and_eq_true_iff.mp h).1
  rw [Cluster.taken?, if_pos hi, htake]
  rfl

/-- What a step takes from the broker it takes for the job that it moves on. -/
theorem Step.taken (h : Step bench c a l l') :
    (l'.flatMap Entry.taken).Perm (l.flatMap Entry.taken ++ (c.taken? a).toList) := by
  cases hadvance : c.advances a with
  | false =>
    rw [h.rest hadvance, Cluster.taken?_eq_none hadvance, Option.toList_none, List.append_nil]
  | true =>
    cases h.advance hadvance with
    | enqueue l i job wantFuture ticket c' _ =>
      rw [List.flatMap_append]
      exact List.Perm.refl _
    | reject before after e error hstage _ =>
      exact taken_exchange (by simp [Entry.taken, Entry.at_, hstage, Cluster.taken?])
    | request before after e b hstage _ =>
      exact taken_exchange (by simp [Entry.taken, Entry.at_, hstage, Cluster.taken?])
    | fail before after e w b hstage htake =>
      rw [taken?_handle hadvance htake]
      exact taken_exchange (by simp [Entry.taken, Entry.at_, Entry.request, hstage])
    | report before after e w q b hstage htake _ =>
      rw [taken?_handle hadvance htake]
      exact taken_exchange (by simp [Entry.taken, Entry.at_, Entry.request, hstage])
    | collect before after e w q i b hstage htake =>
      rw [taken?_collect hadvance htake]
      exact taken_exchange (by simp [Entry.taken, Entry.at_, Entry.request, Entry.report, hstage])

/-- A job is in the ledger as soon as it is taken in, and no other job ever. -/
theorem Step.accepted (h : Step bench c a l l') :
    l'.map (fun e => (e.orchestrator, e.job)) =
      l.map (fun e => (e.orchestrator, e.job)) ++ (c.accepted? a).toList := by
  cases hadvance : c.advances a with
  | false =>
    rw [h.rest hadvance, Cluster.accepted?_eq_none hadvance, Option.toList_none, List.append_nil]
  | true =>
    cases h.advance hadvance with
    | enqueue l i job wantFuture ticket c' _ =>
      have haccepted : c.accepted? (.enqueue i job wantFuture) = some (i, job) := if_pos hadvance
      rw [List.map_append, haccepted]
      rfl
    | _ => simp [Entry.at_, Cluster.accepted?]

theorem countP_taken {p : Message → Bool} {s : Stage → Bool}
    (h : ∀ e : Entry, e.taken.countP p = (s e.stage).toNat) (l : Ledger) :
    (l.flatMap Entry.taken).countP p = l.countP fun e => s e.stage := by
  induction l with
  | nil => rfl
  | cons e rest ih =>
    rw [List.flatMap_cons, List.countP_append, List.countP_cons, h, ih, Nat.add_comm]
    cases s e.stage <;> rfl

theorem countP_taken_requests (e : Entry) :
    e.taken.countP (fun m => Job.requests.selects m.channel) = e.stage.isHandled.toNat := by
  have hrequest := Job.requests_selects_channel e.job.id
  have hreport := Job.requests_selects_statusChannel e.job.id
  unfold Entry.taken
  cases e.stage <;>
    simp [e.request_channel, e.report_channel, hrequest, hreport, Stage.isHandled, Stage.worker?]

theorem countP_taken_reports (e : Entry) :
    e.taken.countP (fun m => Job.reports.selects m.channel) = e.stage.isCollected.toNat := by
  have hrequest := Job.reports_selects_channel e.job.id
  have hreport := Job.reports_selects_statusChannel e.job.id
  unfold Entry.taken
  cases e.stage <;>
    simp [e.request_channel, e.report_channel, hrequest, hreport, Stage.isCollected]

theorem owns_of_mem_taken {e : Entry} {m : Message} (h : m ∈ e.taken) : e.Owns m.channel := by
  have hrequest : e.Owns (Job.channel e.job.id.text) := .inl rfl
  have hreport : e.Owns (Job.statusChannel e.job.id.text) := .inr rfl
  unfold Entry.taken at h
  split at h
  · rw [List.mem_singleton.mp h]
    exact hrequest
  · rw [List.mem_singleton.mp h]
    exact hrequest
  · rcases List.mem_pair.mp h with rfl | rfl
    · exact hrequest
    · exact hreport
  · cases h

theorem nodup_taken (e : Entry) : (e.taken.map (·.channel)).Nodup := by
  unfold Entry.taken
  split
  · exact List.nodup_singleton _
  · exact List.nodup_singleton _
  · refine List.nodup_cons.mpr ⟨?_, List.nodup_singleton _⟩
    rw [List.map_singleton, List.mem_singleton]
    exact Job.channel_ne_statusChannel _ _
  · exact List.nodup_nil

/-- No channel is taken from twice. -/
theorem nodup_flatMap_taken (hids : (l.map (·.job.id)).Nodup) :
    ((l.flatMap Entry.taken).map (·.channel)).Nodup := by
  rw [List.map_flatMap]
  refine List.nodup_flatMap.mpr ⟨fun e _ => nodup_taken e, ?_⟩
  refine (List.pairwise_map.mp hids).imp fun {x e} hne => ?_
  intro channel hx he
  obtain ⟨m, hm, rfl⟩ := List.mem_map.mp hx
  obtain ⟨m', hm', heq⟩ := List.mem_map.mp he
  exact hne ((owns_of_mem_taken hm).id_eq (heq ▸ owns_of_mem_taken hm'))

/-- What adds up when `l` describes the cluster and `taken` are the messages that were taken. -/
structure Accounts (l : Ledger) (c : Cluster) (taken : List Message) : Prop where
  placed : ∀ e ∈ l, e.Placed c
  queued : ∀ q ∈ c.broker.waiting, ∃ e ∈ l, e.message? = some q.message
  /-- Each worker has counted the jobs that it did, and no job was done by nobody. -/
  work : ∀ (w : Nat) (worker : Worker), c.workers[w]? = some worker → l.Work w worker
  worker : ∀ e ∈ l, ∀ w, e.stage.worker? = some w → w < c.workers.length
  dispatched : (c.orchestrators.map (·.dispatched)).sum =
    c.broker.queuedFor Job.requests + c.completed + c.failed
  completed : c.completed =
    c.broker.queuedFor Job.reports + taken.countP fun m => Job.reports.selects m.channel
  acknowledged : c.broker.acknowledged =
    taken.countP (fun m => Job.requests.selects m.channel) +
      taken.countP fun m => Job.reports.selects m.channel
  /-- No job is done by two workers, and no result is collected twice. -/
  once : (taken.map (·.channel)).Nodup

theorem Describes.accounts (h : l.Describes c) {taken : List Message}
    (htaken : (l.flatMap Entry.taken).Perm taken) : l.Accounts c taken := by
  have hrequests : taken.countP (fun m => Job.requests.selects m.channel) =
      l.countP (·.stage.isHandled) :=
    (htaken.countP_eq _).symm.trans (countP_taken countP_taken_requests l)
  have hreports : taken.countP (fun m => Job.reports.selects m.channel) =
      l.countP (·.stage.isCollected) :=
    (htaken.countP_eq _).symm.trans (countP_taken countP_taken_reports l)
  have hqueued : c.broker.queuedFor Job.requests = l.countP (·.stage.isRequested) := by
    rw [h.traffic.queuedFor]
    exact List.countP_congr fun e _ => by rw [message?_request]
  have hqueued' : c.broker.queuedFor Job.reports = l.countP (·.stage.isReported) := by
    rw [h.traffic.queuedFor]
    exact List.countP_congr fun e _ => by rw [message?_report]
  constructor
  · exact fun e he => h.placed he
  · intro q hq
    have hmem := h.traffic.waiting.subset (List.mem_map_of_mem hq)
    exact List.mem_filterMap.mp hmem
  · exact h.work
  · exact h.worker
  -- A job that was dispatched is requested, completed or failed.
  · have hsplit : l.countP (fun e => e.stage.isRequested || e.stage.isCompleted) =
        l.countP (·.stage.isRequested) + l.countP (·.stage.isCompleted) :=
      countP_split fun e _ => by cases e.stage <;> rfl
    rw [h.sum_dispatched, h.completed, h.failed, hqueued, ← hsplit]
    exact countP_split fun e _ => by cases e.stage <;> rfl
  · rw [h.completed, hqueued', hreports]
    exact countP_split fun e _ => by cases e.stage <;> rfl
  · rw [h.traffic.acknowledged, hrequests, hreports]
  · exact (htaken.map _).nodup_iff.mp (nodup_flatMap_taken h.ids)

end Ledger

namespace History

variable {c : Cluster} {steps : List (Workbench × ClusterAction)} {history : Nat → Ledger}

theorem accepted (h : History c steps history) {t : Nat} (ht : t ≤ steps.length) :
    (history t).map (fun e => (e.orchestrator, e.job)) = c.record Cluster.accepted? steps t := by
  induction t with
  | zero =>
    rw [h.start]
    rfl
  | succ t ih =>
    have hs := List.getElem?_eq_getElem ht
    rw [(h.step t steps[t] hs).accepted, ih (Nat.le_of_succ_le ht), Cluster.record, hs]
    rfl

theorem taken (h : History c steps history) {t : Nat} (ht : t ≤ steps.length) :
    ((history t).flatMap Entry.taken).Perm (c.record Cluster.taken? steps t) := by
  induction t with
  | zero =>
    rw [h.start]
    exact List.Perm.refl _
  | succ t ih =>
    have hs := List.getElem?_eq_getElem ht
    rw [Cluster.record, hs]
    exact (h.step t steps[t] hs).taken.trans ((ih (Nat.le_of_succ_le ht)).append_right _)

/-- A job that has left a stage does not come back to it. -/
theorem never_returns (h : History c steps history) {t u v : Nat} (htu : t ≤ u) (huv : u ≤ v)
    (hv : v ≤ steps.length) {k : Nat} {x y z : Entry} (hx : (history t)[k]? = some x)
    (hy : (history u)[k]? = some y) (hz : (history v)[k]? = some z) (hstage : z.stage = x.stage) :
    y.stage = x.stage := by
  -- The stages between are squeezed between a stage and itself.
  obtain ⟨y', hy', hxy⟩ := h.precedes htu (Nat.le_trans huv hv) hx
  obtain ⟨z', hz', hyz⟩ := h.precedes huv hv hy
  rw [hy] at hy'
  rw [hz] at hz'
  cases hy'
  cases hz'
  exact (hxy.stage.antisymm (hstage ▸ hyz.stage)).symm

end History

/-- Whatever the components do in whatever order: the jobs that were taken in each have one stage
at every moment and never go back to an earlier one, they are found where their stages say, and
the counters of all components add up. -/
theorem Cluster.no_job_is_lost (settings : List OrchestratorSettings)
    (crew : List (String × ExecutorKind)) {steps : List (Workbench × ClusterAction)}
    (hclosed : Closed steps) :
    ∃ history, History (fresh settings crew) steps history ∧
      (∀ t u, t ≤ u → u ≤ steps.length → ∀ (k : Nat) (e : Entry), (history t)[k]? = some e →
        ∃ e', (history u)[k]? = some e' ∧ e.Precedes e') ∧
      (∀ t u v, t ≤ u → u ≤ v → v ≤ steps.length → ∀ (k : Nat) (x y z : Entry),
        (history t)[k]? = some x → (history u)[k]? = some y → (history v)[k]? = some z →
          z.stage = x.stage → y.stage = x.stage) ∧
      ∀ t, t ≤ steps.length →
        (history t).map (fun e => (e.orchestrator, e.job)) =
            (fresh settings crew).record accepted? steps t ∧
          (history t).Accounts ((fresh settings crew).moment steps t)
            ((fresh settings crew).record taken? steps t) := by
  obtain ⟨history, h⟩ := exists_history settings crew hclosed
  refine ⟨history, h, ?_, ?_, ?_⟩
  · intro t u htu hu k e he
    exact h.precedes htu hu he
  · intro t u v htu huv hv k x y z hx hy hz hstage
    exact h.never_returns htu huv hv hx hy hz hstage
  · intro t ht
    exact ⟨h.accepted ht, (h.describes t ht).accounts (h.taken ht)⟩

namespace Cluster

set_option maxRecDepth 4000 in
theorem record_taken?_errand :
    ((fresh [{}] [("worker", .sequential)]).record taken? errandSteps 5).map (·.channel) =
      [Job.channel errand.id.text, Job.statusChannel errand.id.text] := by
  rfl

theorem no_job_is_lost_of_errand :
    let c := fresh [{}] [("worker", .sequential)]
    Closed errandSteps ∧ (c.record taken? errandSteps 5).map (·.channel) =
        [Job.channel errand.id.text, Job.statusChannel errand.id.text] ∧
      ∃ history, History c errandSteps history ∧
        (history 5).Accounts (c.moment errandSteps 5) (c.record taken? errandSteps 5) := by
  intro c
  obtain ⟨history, h, -, -, haccounts⟩ :=
    no_job_is_lost [{}] [("worker", .sequential)] closed_errandSteps
  exact ⟨closed_errandSteps, record_taken?_errand, history, h, (haccounts 5 (by decide)).2⟩

end Cluster
end Dataflow
