/-
A worker survives every message.

`Workbench.Completes` says what must hold for a job to be completed: its message
describes it, its pipeline is built and runs to a result, and the channel for the
result has a name.  Whatever else a message says or its pipeline does, a crash
included, the worker counts it, acknowledges it and is ready for the next one.
Since no status message is a request, a worker that goes on gets to the end of the
requests that wait (`Worker.Served`).
-/
import Dataflow.Proofs.Job.History

namespace Dataflow

/-! ## Well-formed descriptors -/

namespace JobDescriptor

variable {metadata : Metadata}

theorem idOfMetadata_eq_ok_iff {id : String} :
    idOfMetadata metadata = .ok id ↔ metadata.get? Job.idKey = some (.str id) ∧ id ≠ "" := by
  unfold idOfMetadata
  split
  · rename_i text hget
    rw [hget]
    split
    · rename_i hempty
      refine ⟨nofun, ?_⟩
      rintro ⟨heq, hne⟩
      cases heq
      exact absurd (String.isEmpty_iff.mp hempty) hne
    · rename_i hempty
      constructor
      · intro h
        cases h
        exact ⟨rfl, fun hid => hempty (String.isEmpty_iff.mpr hid)⟩
      · rintro ⟨heq, -⟩
        cases heq
        rfl
  · rename_i other hother hget
    rw [hget]
    refine ⟨nofun, ?_⟩
    rintro ⟨heq, -⟩
    cases heq
    exact absurd rfl (hother id)
  · rename_i hget
    rw [hget]
    exact ⟨nofun, nofun⟩

theorem pipelineOfMetadata_eq_ok_iff {spec : PipelineSpec} :
    pipelineOfMetadata metadata = .ok spec ↔
      ∃ value, metadata.get? Job.pipelineKey = some value ∧
        PipelineSpec.ofJson value = .ok spec := by
  unfold pipelineOfMetadata
  cases metadata.get? Job.pipelineKey with
  | none => exact ⟨nofun, nofun⟩
  | some value => simp [Except.mapError_eq_ok_iff]

theorem ofMetadata_eq_ok_iff {descriptor : JobDescriptor} :
    ofMetadata metadata = .ok descriptor ↔
      idOfMetadata metadata = .ok descriptor.id ∧
        pipelineOfMetadata metadata = .ok descriptor.pipeline := by
  simp only [ofMetadata, Except.bind_eq_ok_iff]
  constructor
  · rintro ⟨id, hid, pipeline, hpipeline, hok⟩
    cases hok
    exact ⟨hid, hpipeline⟩
  · rintro ⟨hid, hpipeline⟩
    exact ⟨_, hid, _, hpipeline, rfl⟩

end JobDescriptor

/-! ## Completed jobs -/

namespace Workbench

/-- What a request says and its pipeline does if the job is completed as soon as the broker is
connected. -/
structure Completes (bench : Workbench) (request : Message) (id : String) (result : Payload) :
    Prop where
  named : request.metadata.get? Job.idKey = some (.str id)
  nonempty : id ≠ ""
  runs : ∃ value spec p, request.metadata.get? Job.pipelineKey = some value ∧
    PipelineSpec.ofJson value = .ok spec ∧
    Pipeline.ofSpec bench.registry bench.load spec = .ok p ∧
    (p.process bench.filter bench.watch request.payload).1.result = .ok result
  segments : [] ∉ Channel.segments (Job.statusChannel id)

/-- The message that a worker publishes when it gets a request, if it publishes one. -/
def answer? (bench : Workbench) (connected : Bool) (request : Message) : Option Message :=
  (bench.status .sequential request).1.toOption.filter fun m =>
    connected && Channel.isName m.channel

variable {bench : Workbench} {request m : Message}

/-- Executors differ in when they run a pipeline and not in what comes of it. -/
theorem status_executor (bench : Workbench) (executor : ExecutorKind) (request : Message) :
    bench.status executor request = bench.status .sequential request := by
  have hexecute : ∀ spec, bench.execute executor spec request.payload =
      bench.execute .sequential spec request.payload := by
    intro spec
    cases hspec : Pipeline.ofSpec bench.registry bench.load spec with
    | error e => rw [bench.execute_of_error _ hspec, bench.execute_of_error _ hspec]
    | ok p => rw [bench.execute_of_ok _ hspec, bench.execute_of_ok _ hspec]
  unfold status
  split
  · rfl
  · rw [hexecute]

theorem status_eq_ok_iff {executor : ExecutorKind} :
    (bench.status executor request).1 = .ok m ↔
      ∃ descriptor result, JobDescriptor.ofMetadata request.metadata = .ok descriptor ∧
        (bench.execute executor descriptor.pipeline request.payload).1 = .ok result ∧
        m = Job.status descriptor.id result := by
  unfold status
  cases JobDescriptor.ofMetadata request.metadata with
  | error e => simp
  | ok descriptor =>
    cases hexecute : (bench.execute executor descriptor.pipeline request.payload).1 with
    | error e => simp [hexecute, Except.map]
    | ok result => simp [hexecute, Except.map, eq_comm]

theorem answer?_eq_some_iff {connected : Bool} :
    bench.answer? connected request = some m ↔
      connected = true ∧ ∃ id result, bench.Completes request id result ∧
        m = Job.status id result := by
  have hstatus : (bench.status .sequential request).1.toOption = some m ↔
      (bench.status .sequential request).1 = .ok m := by
    cases (bench.status .sequential request).1 <;> simp [Except.toOption]
  rw [answer?, Option.filter_eq_some_iff, hstatus, status_eq_ok_iff, Bool.and_eq_true]
  simp only [JobDescriptor.ofMetadata_eq_ok_iff, JobDescriptor.idOfMetadata_eq_ok_iff,
    JobDescriptor.pipelineOfMetadata_eq_ok_iff, execute_eq_ok_iff]
  constructor
  · rintro ⟨⟨⟨id, spec⟩, result, ⟨⟨hid, hne⟩, value, hvalue, hspec⟩, ⟨p, hp, hresult⟩, rfl⟩,
      hconnected, hname⟩
    exact ⟨hconnected, id, result, ⟨hid, hne, ⟨value, spec, p, hvalue, hspec, hp, hresult⟩,
      Channel.isName_iff_segments.mp hname⟩, rfl⟩
  · rintro ⟨hconnected, id, result,
      ⟨hid, hne, ⟨value, spec, p, hvalue, hspec, hp, hresult⟩, hsegments⟩, rfl⟩
    exact ⟨⟨⟨id, spec⟩, result, ⟨⟨hid, hne⟩, value, hvalue, hspec⟩, ⟨p, hp, hresult⟩, rfl⟩,
      hconnected, Channel.isName_iff_segments.mpr hsegments⟩

theorem selects_answer? {connected : Bool} (h : bench.answer? connected request = some m) :
    Job.requests.selects m.channel = false := by
  obtain ⟨-, id, result, -, rfl⟩ := answer?_eq_some_iff.mp h
  exact Job.requests_ignore_status id

end Workbench

/-! ## One message -/

namespace Broker

variable {b : Broker} {m : Message}

theorem publish_of_name (h : (b.isConnected && Channel.isName m.channel) = true) :
    b.publish m = .ok (b.accept m) :=
  publish_eq_ok_iff.mpr ⟨Bool.and_eq_true_iff.mp h, rfl⟩

theorem publish_of_no_name (h : (b.isConnected && Channel.isName m.channel) = false) :
    ∃ e, b.publish m = .error e := by
  cases hpublish : b.publish m with
  | error e => exact ⟨e, rfl⟩
  | ok b' =>
    have hname := Bool.and_eq_true_iff.mpr (publish_eq_ok_iff.mp hpublish).1
    rw [h] at hname
    cases hname

theorem isConnected_eq {b b' : Broker} (h : b'.connections = b.connections) :
    b'.isConnected = b.isConnected := by
  rw [isConnected, isConnected, h]

theorem acknowledge_connections (b : Broker) (m : Message) :
    (b.acknowledge m).2.connections = b.connections := by
  unfold acknowledge
  split <;> rfl

theorem take?_connections {pattern : ChannelPattern} {b' : Broker}
    (h : b.take? pattern = some (m, b')) : b'.connections = b.connections := by
  unfold take? takeFrom? at h
  simp only [Option.bind_eq_bind, Option.bind_eq_some_iff] at h
  obtain ⟨front, -, q, -, hok⟩ := h
  cases hok
  exact dropFront_connections b _

end Broker

namespace Worker

variable {bench : Workbench} {w : Worker} {b : Broker} {request m : Message}

/-- One counter grows, the answer is published if there is one, and the request is acknowledged. -/
theorem handle_eq (bench : Workbench) (request : Message) (w : Worker) (b : Broker) :
    (handle bench request w b).state =
        (bench.answer? b.isConnected request).elim { w with failed := w.failed + 1 }
          (fun _ => { w with completed := w.completed + 1 }) ∧
      (handle bench request w b).broker =
        (((bench.answer? b.isConnected request).elim b b.accept).acknowledge request).2 := by
  rw [Workbench.answer?, handle, bench.status_executor w.executor]
  obtain ⟨status, happened⟩ := bench.status .sequential request
  cases status with
  | error e => exact ⟨rfl, rfl⟩
  | ok m =>
    simp only [Except.toOption, Option.filter_some, bind, Except.bind]
    cases hname : b.isConnected && Channel.isName m.channel with
    | true =>
      rw [Broker.publish_of_name hname]
      exact ⟨rfl, rfl⟩
    | false =>
      obtain ⟨e, hpublish⟩ := Broker.publish_of_no_name hname
      rw [hpublish]
      exact ⟨rfl, rfl⟩

/-- Which executor runs the pipeline cannot be told from what a worker does. -/
theorem handle_executor (executor : ExecutorKind) (bench : Workbench) (request : Message)
    (w : Worker) (b : Broker) :
    handle bench request { w with executor } b =
      { handle bench request w b with
        state := { (handle bench request w b).state with executor } } := by
  unfold handle
  simp only [bench.status_executor executor, bench.status_executor w.executor]
  obtain ⟨status, happened⟩ := bench.status .sequential request
  cases status with
  | error e => rfl
  | ok m => cases hpublish : b.publish m <;> simp [bind, Except.bind, Except.mapError, hpublish]

theorem acknowledged_handle (h : request.awaitsAck = true) :
    (handle bench request w b).broker.acknowledged = b.acknowledged + 1 := by
  rw [(handle_eq bench request w b).2, Broker.acknowledge, if_pos h]
  cases bench.answer? b.isConnected request <;> rfl

theorem connections_handle (bench : Workbench) (request : Message) (w : Worker) (b : Broker) :
    (handle bench request w b).broker.connections = b.connections := by
  rw [(handle_eq bench request w b).2, Broker.acknowledge_connections]
  cases bench.answer? b.isConnected request <;> rfl

/-- What a worker publishes is no request. -/
theorem handle_holds {queued : List Queued} (h : b.Holds queued) (bench : Workbench)
    (request : Message) (w : Worker) :
    ∃ reports, (handle bench request w b).broker.Holds (queued ++ reports) ∧
      reports.map (·.message) = (bench.answer? b.isConnected request).toList.map
        (fun m => { m with awaitsAck := true }) ∧
      ∀ q ∈ reports, Job.requests.selects q.message.channel = false := by
  rw [(handle_eq bench request w b).2]
  cases hanswer : bench.answer? b.isConnected request with
  | none =>
    refine ⟨[], ?_, rfl, fun q hq => absurd hq List.not_mem_nil⟩
    rw [List.append_nil]
    exact h.acknowledge request
  | some m =>
    refine ⟨[b.queued m], (h.accept m).acknowledge request, rfl, fun q hq => ?_⟩
    rw [List.mem_singleton.mp hq]
    exact Workbench.selects_answer? (m := m) hanswer

/-! ## All messages -/

/-- A number of rounds of the loop, with a subscription that stays open. -/
def serve (bench : Workbench) : Nat → Move Worker
  | 0 => Move.stay
  | n + 1 => Move.andThen (Cluster.handleNext bench) (serve bench n)

/-- What has become of a worker and its broker when the worker has taken some requests and left the
messages `rest`. -/
structure Served (bench : Workbench) (w : Worker) (b : Broker) (requests : List Message)
    (rest : List Queued) (w' : Worker) (b' : Broker) : Prop where
  worker : w' = { w with
    completed := w.completed + requests.countP fun r => (bench.answer? b.isConnected r).isSome
    failed := w.failed + requests.countP fun r => (bench.answer? b.isConnected r).isNone }
  connections : b'.connections = b.connections
  acknowledged : b'.acknowledged = b.acknowledged + requests.length
  /-- The answers stand behind what was left, in the order of the requests. -/
  messages : ∃ reports, b'.Holds (rest ++ reports) ∧
    reports.map (·.message) =
      (requests.filterMap (bench.answer? b.isConnected)).map fun m => { m with awaitsAck := true }

namespace Served

variable {requests : List Message} {rest : List Queued} {w' : Worker} {b' : Broker}

theorem nil (h : b.Holds rest) : Served bench w b [] rest w b where
  worker := rfl
  connections := rfl
  acknowledged := rfl
  messages := ⟨[], by rwa [List.append_nil], rfl⟩

/-- One request more at the front.  If there is an answer to it, it is the first one. -/
theorem cons {b₁ : Broker} {reports : List Queued} (hconnections : b₁.connections = b.connections)
    (hacknowledged : b₁.acknowledged = b.acknowledged + 1)
    (hreports : reports.map (·.message) = (bench.answer? b.isConnected request).toList.map
      (fun m => { m with awaitsAck := true }))
    (h : Served bench
      ((bench.answer? b.isConnected request).elim { w with failed := w.failed + 1 }
        (fun _ => { w with completed := w.completed + 1 }))
      b₁ requests (rest ++ reports) w' b') :
    Served bench w b (request :: requests) rest w' b' := by
  obtain ⟨hworker, hconnections', hacknowledged', later, hholds, hlater⟩ := h
  rw [Broker.isConnected_eq hconnections] at hworker hlater
  refine ⟨hworker.trans ?_, hconnections'.trans hconnections, ?_, reports ++ later, ?_, ?_⟩
  · cases hanswer : bench.answer? b.isConnected request with
    | none => simp [hanswer, Nat.add_assoc, Nat.add_comm 1]
    | some m => simp [hanswer, Nat.add_assoc, Nat.add_comm 1]
  · rw [hacknowledged', hacknowledged, List.length_cons]
    omega
  · rwa [List.append_assoc] at hholds
  · rw [List.map_append, hreports, hlater]
    cases hanswer : bench.answer? b.isConnected request with
    | none => rw [List.filterMap_cons, hanswer, Option.toList_none, List.map_nil, List.nil_append]
    | some m => rw [List.filterMap_cons, hanswer, Option.toList_some, List.map_cons]; rfl

/-- Neither what was left nor the answers are requests. -/
theorem take?_eq_none (h : Served bench w b requests rest w' b')
    (hrest : ∀ q ∈ rest, Job.requests.selects q.message.channel = false) :
    b'.take? Job.requests = none := by
  obtain ⟨reports, hholds, hreports⟩ := h.messages
  refine hholds.takeFrom?_eq_none (List.Perm.refl _) fun q hq => ?_
  rcases List.mem_append.mp hq with hq | hq
  · exact hrest q hq
  · have hmem : q.message ∈ reports.map (·.message) := List.mem_map_of_mem hq
    rw [hreports] at hmem
    obtain ⟨m, hm, hmessage⟩ := List.mem_map.mp hmem
    obtain ⟨request, -, hanswer⟩ := List.mem_filterMap.mp hm
    rw [← hmessage]
    exact Workbench.selects_answer? (m := m) hanswer

end Served

/-- The induction is on the requests that wait.  A round takes the first of them, and what it adds
to the messages is none. -/
theorem served_of_holds (bench : Workbench) (requests : List Message) :
    ∀ (w : Worker) (b : Broker) (queued : List Queued), b.Holds queued →
      (queued.filter fun q => Job.requests.selects q.message.channel).map (·.message) = requests →
      let moved := serve bench requests.length w b
      Served bench w b requests (queued.filter fun q => !Job.requests.selects q.message.channel)
        moved.state moved.broker := by
  induction requests with
  | nil =>
    intro w b queued h hrequests
    have hnone := List.filter_eq_nil_iff.mp (List.map_eq_nil_iff.mp hrequests)
    have hall : queued.filter (fun q => !Job.requests.selects q.message.channel) = queued :=
      List.filter_eq_self.mpr fun q hq => by simpa using hnone q hq
    rw [hall]
    exact .nil h
  | cons request requests ih =>
    intro w b queued h hrequests
    rcases h.take?_eq Job.requests with
      ⟨q, b₁, hfind, htake, hconnections, -, hacknowledged, hholds⟩ | ⟨hnone, -⟩
    · rw [Broker.filter_of_find?_eq_some hfind, List.map_cons, List.cons.injEq] at hrequests
      obtain ⟨rfl, hrequests⟩ := hrequests
      have hq := h.unacked q (List.mem_of_find?_eq_some hfind)
      have hconnected := Broker.isConnected_eq hconnections
      obtain ⟨reports, hholds', hreports, hothers⟩ := handle_holds hholds bench q.message w
      have hkept : (reports.filter fun r => !Job.requests.selects r.message.channel) = reports :=
        List.filter_eq_self.mpr fun r hr => by simp [hothers r hr]
      have hnone : (reports.filter fun r => Job.requests.selects r.message.channel) = [] :=
        List.filter_eq_nil_iff.mpr fun r hr => by simp [hothers r hr]
      have hlater := ih (handle bench q.message w b₁).state (handle bench q.message w b₁).broker _
        hholds' (by rw [List.filter_append, hnone, List.append_nil]; exact hrequests)
      rw [List.filter_append, hkept, Broker.filter_not_eraseP] at hlater
      show Served bench w b (q.message :: requests) _
        (serve bench requests.length (Cluster.handleNext bench w b).state
          (Cluster.handleNext bench w b).broker).state
        (serve bench requests.length (Cluster.handleNext bench w b).state
          (Cluster.handleNext bench w b).broker).broker
      rw [Ledger.handleNext_of_some bench w htake]
      refine Served.cons ((connections_handle bench q.message w b₁).trans hconnections)
        ((acknowledged_handle hq).trans (congrArg (· + 1) hacknowledged)) (hconnected ▸ hreports) ?_
      rw [← hconnected, ← (handle_eq bench q.message w b₁).1]
      exact hlater
    · rw [List.filter_eq_nil_iff.mpr (by simpa using hnone)] at hrequests
      cases hrequests

/-! ## Turns -/

/-- What a worker does in a number of turns. -/
def turns (bench : Workbench) : Nat → Move Worker
  | 0 => Move.stay
  | n + 1 => Move.andThen (turn bench) (turns bench n)

theorem turn_eq (hrun : w.run = .looping) (hopen : w.stopped = false)
    (hconnected : b.isConnected = true) (bench : Workbench) :
    turn bench w b = Cluster.handleNext bench w b := by
  have hparse : ChannelPattern.parse Job.pattern = .ok Job.requests := rfl
  have hsubscribe : b.subscribe Job.pattern = .ok { pattern := Job.requests } := by
    rw [Broker.subscribe, Broker.whileConnected, if_pos hconnected, hparse]
    rfl
  rw [Ledger.handleNext_eq]
  simp only [turn, hrun, poll, hopen, hsubscribe, Bool.false_eq_true, if_false]

/-- A round leaves the worker in its loop and the broker connected. -/
theorem handleNext_frame (bench : Workbench) (w : Worker) (b : Broker) :
    (Cluster.handleNext bench w b).state.run = w.run ∧
      (Cluster.handleNext bench w b).state.stopped = w.stopped ∧
      (Cluster.handleNext bench w b).broker.connections = b.connections := by
  cases htake : b.take? Job.requests with
  | none =>
    rw [Ledger.handleNext_of_none htake]
    exact ⟨rfl, rfl, rfl⟩
  | some taken =>
    obtain ⟨request, b₁⟩ := taken
    rw [Ledger.handleNext_of_some bench w htake]
    have hconnections := connections_handle bench request w b₁
    have hstate : (handle bench request w b₁).state.run = w.run ∧
        (handle bench request w b₁).state.stopped = w.stopped := by
      rw [(handle_eq bench request w b₁).1]
      cases bench.answer? b₁.isConnected request <;> exact ⟨rfl, rfl⟩
    exact ⟨hstate.1, hstate.2, hconnections.trans (Broker.take?_connections htake)⟩

theorem turns_eq_serve (bench : Workbench) (n : Nat) :
    ∀ (w : Worker) (b : Broker), w.run = .looping → w.stopped = false → b.isConnected = true →
      turns bench n w b = serve bench n w b := by
  induction n with
  | zero => exact fun _ _ _ _ _ => rfl
  | succ n ih =>
    intro w b hrun hopen hconnected
    obtain ⟨hrun', hopen', hconnections⟩ := handleNext_frame bench w b
    have hconnected' := (Broker.isConnected_eq hconnections).trans hconnected
    rw [turns, serve, Move.andThen, Move.andThen, turn_eq hrun hopen hconnected,
      ih _ _ (hrun'.trans hrun) (hopen'.trans hopen) hconnected']

/-- No message stops a worker or leads it astray, whatever the message says, whatever its pipeline
does and whichever executor runs it.  It is acknowledged once and counted once: as completed if the
broker is connected and the job is one to complete, in which case the one message that is published
carries the result, and as failed otherwise, in which case nothing is published.  And a worker that
is not stopped goes on until it has taken all the requests that wait. -/
theorem no_message_stops_a_worker (bench : Workbench) (w : Worker) (b : Broker) :
    (∀ (request m : Message), bench.answer? b.isConnected request = some m ↔
      b.isConnected = true ∧ ∃ id result, bench.Completes request id result ∧
        m = Job.status id result) ∧
    (∀ (id : String) (result : Payload),
      (Job.status id result).channel = "jobs." ++ id ++ ".status" ∧
      (∀ key, (Job.status id result).metadata.get? key =
        if "job_id" = key then some (.str id) else none) ∧
      (Job.status id result).payload.data = result.data ∧
      ∀ key, (Job.status id result).payload.context.get? key =
        if "job_id" = key then some (.str id) else result.context.get? key) ∧
    (∀ request : Message, request.awaitsAck = true →
      let answer? := bench.answer? b.isConnected request
      let moved := handle bench request w b
      moved.broker.acknowledged = b.acknowledged + 1 ∧
      moved.state = answer?.elim { w with failed := w.failed + 1 }
        (fun _ => { w with completed := w.completed + 1 }) ∧
      moved.broker = ((answer?.elim b b.accept).acknowledge request).2 ∧
      ∀ executor, handle bench request { w with executor } b =
        { moved with state := { moved.state with executor } }) ∧
    (∀ queued, b.Holds queued →
      let selected := queued.filter fun q => Job.requests.selects q.message.channel
      let rest := queued.filter fun q => !Job.requests.selects q.message.channel
      let moved := serve bench selected.length w b
      Served bench w b (selected.map (·.message)) rest moved.state moved.broker ∧
        moved.broker.take? Job.requests = none) ∧
    (w.run = .looping → w.stopped = false → b.isConnected = true →
      ∀ n, turns bench n w b = serve bench n w b) := by
  refine ⟨fun _ _ => Workbench.answer?_eq_some_iff, fun id result => ?_, ?_, ?_, ?_⟩
  · exact ⟨rfl, fun key => KeyMap.get?_insert _ _ key _, rfl, fun key =>
      KeyMap.get?_insert _ _ key _⟩
  · intro request hrequest answer? moved
    obtain ⟨hstate, hbroker⟩ := handle_eq bench request w b
    exact ⟨acknowledged_handle hrequest, hstate, hbroker, fun executor =>
      handle_executor executor bench request w b⟩
  · intro queued h selected rest moved
    have hserved := served_of_holds bench (selected.map (·.message)) w b queued h rfl
    rw [List.length_map] at hserved
    refine ⟨hserved, hserved.take?_eq_none fun q hq => ?_⟩
    simpa using (List.mem_filter.mp hq).2
  · intro hrun hopen hconnected n
    exact turns_eq_serve bench n w b hrun hopen hconnected

/-- A message that describes no job and one whose result has no channel come before a job, and the
job is done all the same. -/
theorem no_message_stops_a_worker_of_errand :
    let request : Message := { Cluster.errand.message with awaitsAck := true }
    let malformed : Message := { request with metadata := .empty }
    let misnamed : Message :=
      { request with metadata := request.metadata.insert Job.idKey (.str "a..b") }
    let b := (((Broker.connect {}).accept malformed).accept misnamed).accept request
    let w : Worker := { id := "worker", run := .looping }
    let moved := turns Cluster.bareBench 3 w b
    (handle Cluster.bareBench request w b).state.completed = 1 ∧
      moved.state.completed = 1 ∧ moved.state.failed = 2 ∧ moved.broker.acknowledged = 3 ∧
      moved.broker.take? Job.requests = none := by
  intro request malformed misnamed b w moved
  have hmalformed : Cluster.bareBench.answer? true malformed = none := by
    refine Option.eq_none_iff_forall_ne_some.mpr fun m hm => ?_
    obtain ⟨-, id, result, hcompletes, -⟩ := Workbench.answer?_eq_some_iff.mp hm
    cases hcompletes.named
  have hmisnamed : Cluster.bareBench.answer? true misnamed = none := by
    refine Option.eq_none_iff_forall_ne_some.mpr fun m hm => ?_
    obtain ⟨-, id, result, hcompletes, -⟩ := Workbench.answer?_eq_some_iff.mp hm
    have hid := (KeyMap.get?_insert_self _ _ _).symm.trans hcompletes.named
    cases hid
    exact hcompletes.segments (by decide)
  obtain ⟨p, hp, hresult⟩ : ∃ p, Pipeline.ofSpec .empty Cluster.bareBench.load
      Cluster.errand.pipeline = .ok p ∧
      (p.process .off .stopped Cluster.errand.payload).1.result = .ok Cluster.errand.payload :=
    ⟨_, rfl, rfl⟩
  have hrequest : Cluster.bareBench.answer? true request =
      some (Job.status Cluster.errand.id.text Cluster.errand.payload) := by
    refine Workbench.answer?_eq_some_iff.mpr ⟨rfl, _, _, ⟨rfl, by decide, ?_, ?_⟩, rfl⟩
    · exact ⟨_, _, p, rfl, PipelineSpec.ofJson_toJson _, hp, hresult⟩
    · exact Channel.isName_iff_segments.mp ((Job.isName_statusChannel _).trans (JobId.isName_text _))
  have hholds := ((Broker.holds_empty.connect.accept malformed).accept misnamed).accept request
  have hselected : ∀ q ∈ [] ++ [(Broker.connect {}).queued malformed] ++
      [((Broker.connect {}).accept malformed).queued misnamed] ++
      [(((Broker.connect {}).accept malformed).accept misnamed).queued request],
      Job.requests.selects q.message.channel = true := by
    intro q hq
    simp only [List.nil_append, List.cons_append, List.mem_cons, List.not_mem_nil, or_false] at hq
    rcases hq with rfl | rfl | rfl
    all_goals exact Job.requests_selects_channel Cluster.errand.id
  obtain ⟨-, -, hstep, hrun, hturns⟩ := no_message_stops_a_worker Cluster.bareBench w b
  obtain ⟨-, hstate, -, -⟩ := hstep request rfl
  obtain ⟨hserved, hdone⟩ := hrun _ hholds
  rw [List.filter_eq_self.mpr hselected] at hserved hdone
  have hmoved : moved = serve Cluster.bareBench 3 w b := hturns rfl rfl rfl 3
  have hworker : moved.state = { w with completed := 0 + 1, failed := 0 + 2 } := by
    rw [hmoved]
    refine hserved.worker.trans ?_
    show { w with
      completed := 0 + [malformed, misnamed, request].countP
        fun r => (Cluster.bareBench.answer? true r).isSome
      failed := 0 + [malformed, misnamed, request].countP
        fun r => (Cluster.bareBench.answer? true r).isNone : Worker } = _
    simp only [List.countP_cons, List.countP_nil, hmalformed, hmisnamed, hrequest]
    rfl
  refine ⟨?_, congrArg Worker.completed hworker, congrArg Worker.failed hworker, ?_, ?_⟩
  · rw [hstate, show b.isConnected = true from rfl, hrequest]
    rfl
  · rw [hmoved]
    exact hserved.acknowledged
  · rw [hmoved]
    exact hdone

end Worker
end Dataflow
