/-
A run is a prefix of its nodes, and everything that can be seen of it stops where the prefix does.

A node fails at the first of three stages that fails: its input has the wrong type, an argument is
missing, or its processor refuses.  `Node.Fails` lists the three with all that came before, and a
failure at the first two does not depend on what the processor does.  The run fails with the node.
Its events are those of the completed nodes between a first and a last one, its records and what
the pipeline adds up are theirs too, and other nodes behind the one that failed would have made
the same run.
-/
import Dataflow.Proofs.Pipeline.Accumulation

namespace Dataflow

/-! ## One node -/

/-- The position and the processor of the node that failed. -/
def PipelineError.blamed? : PipelineError → Option (Nat × String)
  | missingParameter index name _ => some (index, name)
  | typeMismatch index name _ _ => some (index, name)
  | processor index name _ => some (index, name)
  | _ => none

/-- Whether a processor reported the error. -/
def PipelineError.isRefusal : PipelineError → Bool
  | processor .. => true
  | _ => false

namespace Node

variable {node : Node} {filter : LogFilter} {payload : Payload} {origins : KeyOrigins}

def Fits (node : Node) (data : TypedData) : Prop :=
  node.readsData = true → node.inputType.accepts data.type = true

/-- How a node fails, and what went well before. -/
inductive Fails (node : Node) (filter : LogFilter) (payload : Payload) (origins : KeyOrigins) :
    PipelineError → Prop
  | input (hreads : node.readsData = true)
      (htype : node.inputType.accepts payload.data.type = false) :
      Fails node filter payload origins
        (.typeMismatch node.index node.name node.inputType payload.data.type)
  | argument {spec : ParameterSpec} (hfits : node.Fits payload.data)
      (hfirst : node.unresolved? payload.context = some spec) :
      Fails node filter payload origins (.missingParameter node.index node.name spec.name)
  | processor {params : Parameters} {sources : KeyMap ParameterSource} {cause : ProcessorError}
      (hfits : node.Fits payload.data)
      (hresolve : node.resolve payload.context origins = .ok (params, sources))
      (happly : node.apply filter params payload origins = .error cause) :
      Fails node filter payload origins (.processor node.index node.name cause)

theorem checkInput_eq_ok_iff {data : TypedData} :
    node.checkInput data = .ok () ↔ node.Fits data := by
  unfold checkInput Fits
  cases node.readsData <;> cases node.inputType.accepts data.type <;> simp

theorem execute_eq_error_iff {e : PipelineError} :
    node.execute filter payload origins = .error e ↔ node.Fails filter payload origins e := by
  constructor
  · intro h
    rcases execute_eq_error h with
      hinput | ⟨hinput, hresolve | ⟨params, sources, cause, hresolve, happly, rfl⟩⟩
    · obtain ⟨hreads, htype, rfl⟩ := checkInput_eq_error_iff.mp hinput
      exact .input hreads htype
    · obtain ⟨spec, hfirst, rfl⟩ := resolve_eq_error_iff.mp hresolve
      exact .argument (checkInput_eq_ok_iff.mp hinput) hfirst
    · exact .processor (checkInput_eq_ok_iff.mp hinput) hresolve happly
  · intro h
    cases h with
    | input hreads htype =>
      rw [execute, checkInput_eq_error_iff.mpr ⟨hreads, htype, rfl⟩]
      rfl
    | argument hfits hfirst =>
      rw [execute, checkInput_eq_ok_iff.mpr hfits, resolve_eq_error_iff.mpr ⟨_, hfirst, rfl⟩]
      rfl
    | processor hfits hresolve happly =>
      rw [execute, checkInput_eq_ok_iff.mpr hfits, hresolve]
      show ((node.apply filter _ payload origins).mapError _ >>= _) = _
      rw [happly]
      rfl

theorem Fails.blamed? {e : PipelineError} (h : node.Fails filter payload origins e) :
    e.blamed? = some (node.index, node.name) := by
  cases h <;> rfl

/-- Two nodes with the same configuration whose processors declare the same. -/
structure SameInterface (a b : Node) : Prop where
  index : b.index = a.index
  config : b.config = a.config
  name : b.name = a.name
  readsData : b.readsData = a.readsData
  inputType : b.inputType = a.inputType
  parameters : b.processor.parameters = a.processor.parameters

/-- A processor has no part in a failure that it did not report. -/
theorem Fails.of_sameInterface {a b : Node} {e : PipelineError} (hsame : a.SameInterface b)
    (h : a.Fails filter payload origins e) (he : e.isRefusal = false) :
    b.Fails filter payload origins e := by
  have hfits : b.Fits payload.data ↔ a.Fits payload.data := by
    rw [Fits, Fits, hsame.readsData, hsame.inputType]
  have hunresolved : b.unresolved? payload.context = a.unresolved? payload.context := by
    simp only [unresolved?, value?, hsame.parameters, hsame.config]
  cases h with
  | input hreads htype =>
    rw [← hsame.index, ← hsame.name, ← hsame.inputType]
    exact .input (hsame.readsData.trans hreads) (hsame.inputType ▸ htype)
  | argument hfit hfirst =>
    rw [← hsame.index, ← hsame.name]
    exact .argument (hfits.mpr hfit) (hunresolved.trans hfirst)
  | processor => cases he

end Node

/-! ## Events -/

namespace Passage

/-- What can be observed of the passage. -/
def events (watch : Stopwatch) (p : Passage) : List RunEvent := Run.eventsOf watch p.node p.outcome

/-- The event with which the passage ends. -/
def executed (watch : Stopwatch) (p : Passage) : RunEvent :=
  .message (.nodeExecuted p.node.label (watch.node p.node.index))

theorem filter_events (watch : Stopwatch) (passed : List Passage) :
    (passed.flatMap (·.events watch)).filter (!·.isEmission) = passed.map (·.executed watch) := by
  have hone (p : Passage) : (p.events watch).filter (!·.isEmission) = [p.executed watch] := by
    rw [events, Run.eventsOf, List.filter_append, List.filter_map]
    simp [Function.comp_def, RunEvent.isEmission, executed]
  rw [List.filter_flatMap, List.map_eq_flatMap]
  simp only [hone]

end Passage

namespace Run

/-- The event of the node in front of which a run stopped. -/
def failure (node? : Option Node) : Outcome PipelineError Payload → List RunEvent
  | .error e => node?.toList.map fun node => .message (.nodeFailed node.label e.message)
  | _ => []

theorem ofNodes_events (filter : LogFilter) (watch : Stopwatch) (nodes : List Node)
    (start : Checkpoint) :
    let run := ofNodes filter watch nodes start.payload start.origins
    let passed := passages filter nodes start
    run.events = passed.flatMap (·.events watch) ++ failure nodes[passed.length]? run.result := by
  induction nodes generalizing start with
  | nil => rfl
  | cons node rest ih =>
    cases hexecute : node.execute filter start.payload start.origins with
    | ok outcome =>
      have hrest := ih ⟨outcome.payload, outcome.origins⟩
      rw [ofNodes_cons_ok hexecute, passages, hexecute]
      show eventsOf watch node outcome ++ (ofNodes _ _ _ _ _).events = _
      rw [hrest, List.flatMap_cons, List.append_assoc]
      rfl
    | error e =>
      rw [ofNodes, passages, hexecute]
      rfl
    | crash m =>
      rw [ofNodes, passages, hexecute]
      rfl

/-- The nodes behind the one that stopped a run have no part in it. -/
theorem ofNodes_replace (filter : LogFilter) (watch : Stopwatch) {nodes : List Node}
    {start : Checkpoint} (h : (passages filter nodes start).length < nodes.length)
    (others : List Node) :
    ofNodes filter watch (nodes.take ((passages filter nodes start).length + 1) ++ others)
        start.payload start.origins =
      ofNodes filter watch nodes start.payload start.origins := by
  induction nodes generalizing start with
  | nil => cases h
  | cons node rest ih =>
    cases hexecute : node.execute filter start.payload start.origins with
    | ok outcome =>
      rw [passages, hexecute] at h ⊢
      have hrest := ih (Nat.lt_of_succ_lt_succ h)
      rw [List.length_cons, List.take_succ_cons, List.cons_append, ofNodes_cons_ok hexecute,
        ofNodes_cons_ok hexecute]
      simp only at hrest ⊢
      rw [hrest]
    -- Otherwise the run stops at this node, which is taken and in front of the others.
    | error e =>
      rw [passages, hexecute]
      simp only [List.length_nil, List.take_succ_cons, List.cons_append, ofNodes, hexecute]
    | crash m =>
      rw [passages, hexecute]
      simp only [List.length_nil, List.take_succ_cons, List.cons_append, ofNodes, hexecute]

/-- A run that does not crash ends with one message behind the events of its passages. -/
theorem of_ending (filter : LogFilter) (watch : Stopwatch) {nodes : List Node}
    (hsteady : ∀ node ∈ nodes, node.processor.Steady) (payload : Payload) :
    let run := of filter watch nodes payload
    let passed := passages filter nodes (.start payload)
    let checkpoint := behind (.start payload) passed
    ∃ last : PipelineMessage,
      ((passed.length = nodes.length ∧ run.result = .ok checkpoint.payload ∧
          last = .runCompleted nodes.length watch.run) ∨
        ∃ node e, nodes[passed.length]? = some node ∧
          node.execute filter checkpoint.payload checkpoint.origins = .error e ∧
          run.result = .error e ∧ last = .nodeFailed node.label e.message) ∧
      run.events = .message (.runStarted nodes.length payload.data.type.name) ::
        passed.flatMap (·.events watch) ++ [.message last] := by
  intro run passed checkpoint
  have hevents : run.events = .message (.runStarted nodes.length payload.data.type.name) ::
      (passed.flatMap (·.events watch) ++ failure nodes[passed.length]? run.result) ++
        closing watch nodes.length run.result :=
    congrArg (_ :: · ++ _) (ofNodes_events filter watch nodes (.start payload))
  rcases ofNodes_ending filter watch nodes (.start payload) with
    ⟨hlength, hresult⟩ | ⟨node, hnode, ⟨e, hexecute, hresult⟩ | ⟨m, hexecute, -⟩⟩
  · have hok : run.result = .ok checkpoint.payload := hresult
    refine ⟨_, .inl ⟨hlength, hok, rfl⟩, ?_⟩
    simp only [hevents, hok, failure, closing, List.append_nil]
  · have herror : run.result = .error e := hresult
    have hsome : nodes[passed.length]? = some node := hnode
    refine ⟨_, .inr ⟨node, e, hnode, hexecute, herror, rfl⟩, ?_⟩
    simp only [hevents, herror, hsome, failure, closing, List.append_nil, Option.toList_some,
      List.map_cons, List.map_nil, List.cons_append]
  · exact absurd hexecute (Node.execute_ne_crash (hsteady node (List.mem_of_getElem? hnode)) m)

end Run

/-! ## Accounts -/

namespace Pipeline

variable {q : Pipeline}

/-- A call adds to the account of a node the record that it left of the node. -/
theorem Positioned.timing_process (hq : q.Positioned) (call : ProcessCall) (j : Nat) :
    (q.process call.filter call.watch call.payload).2.timings[j]? =
      q.timings[j]?.map fun timing => (q.runOf call).completed[j]?.elim timing timing.after := by
  show ((q.runOf call).completed.foldl addTiming q.timings)[j]? = _
  rw [getElem?_foldl_addTiming, hq.completed_filter]
  cases (q.runOf call).completed[j]? <;> rfl

/-- A call adds to the values of a node the one that it collected from the node. -/
theorem Positioned.get?_process (hq : q.Positioned) (call : ProcessCall) {j : Nat} {node : Node}
    (hnode : q.nodes[j]? = some node) :
    (q.process call.filter call.watch call.payload).2.probeResults.get? node.label =
      match (q.runOf call).completed[j]?.bind (·.collected?) with
      | some value => some ((q.probeResults.get? node.label).getD [] ++ [value])
      | none => q.probeResults.get? node.label := by
  have hvalues := hq.valuesUnder [call] hnode
  rw [journal, List.flatMap_singleton, recordsAt] at hvalues
  show ((q.runOf call).completed.foldl addCollected q.probeResults).get? node.label = _
  rw [get?_foldl_addCollected, hvalues]
  cases hrecord : (q.runOf call).completed[j]? with
  | none => simp [hrecord]
  | some r => cases hcollected : r.collected? <;> simp [hrecord, hcollected]

/-- A call adds no values but under the labels of nodes. -/
theorem get?_process_of_ne (call : ProcessCall) {label : String}
    (h : ∀ node ∈ q.nodes, node.label ≠ label) :
    (q.process call.filter call.watch call.payload).2.probeResults.get? label =
      q.probeResults.get? label := by
  show ((q.runOf call).completed.foldl addCollected q.probeResults).get? label = _
  rw [get?_foldl_addCollected, if_pos]
  refine List.filterMap_eq_nil_iff.mpr fun r hr => ?_
  obtain ⟨t, ht⟩ := List.mem_iff_getElem?.mp hr
  exact if_neg (h r.node (List.mem_of_getElem? (node_of_completed ht)))

end Pipeline

/-! ## Calls -/

namespace Pipeline

variable {q : Pipeline}

/-- What a call of a pipeline does that completes the passages and ends with the message: it makes
the run and leaves the pipeline behind. -/
structure Stops (q : Pipeline) (call : ProcessCall) (passed : List Passage)
    (last : PipelineMessage) (run : Run) (after : Pipeline) : Prop where
  length_le : passed.length ≤ q.nodes.length
  /-- The passages are of the first nodes, in order and each on what the one before left. -/
  linked : Linked call.filter q.nodes (.start call.payload) passed
  /-- Either no node is left and the run delivers the payload behind the last, or the next node
  fails there and the run with it. -/
  ending : let checkpoint := behind (.start call.payload) passed
    (passed.length = q.nodes.length ∧ run.result = .ok checkpoint.payload ∧
        last = .runCompleted q.nodes.length call.watch.run) ∨
      ∃ node e, q.nodes[passed.length]? = some node ∧
        node.execute call.filter checkpoint.payload checkpoint.origins = .error e ∧
        run.result = .error e ∧ e.blamed? = some (passed.length, node.name) ∧
        last = .nodeFailed node.label e.message
  events : run.events =
    .message (.runStarted q.nodes.length call.payload.data.type.name) ::
      passed.flatMap (·.events call.watch) ++ [.message last]
  /-- Without what sinks emit there is one event for each passage. -/
  messages : run.events.filter (!·.isEmission) =
    .message (.runStarted q.nodes.length call.payload.data.type.name) ::
      passed.map (·.executed call.watch) ++ [.message last]
  origins : run.origins = (behind (.start call.payload) passed).origins
  lastRun : after.lastRun = passed.map (·.record call.watch)
  /-- The account of a node changes if it completed. -/
  timings : ∀ j : Nat, after.timings[j]? = q.timings[j]?.map fun timing =>
    passed[j]?.elim timing fun passage => timing.after (passage.record call.watch)
  /-- The values of a node change if it completed and had one. -/
  probeResults : ∀ (j : Nat) (node : Node), q.nodes[j]? = some node →
    after.probeResults.get? node.label =
      match passed[j]?.bind (·.record call.watch |>.collected?) with
      | some value => some ((q.probeResults.get? node.label).getD [] ++ [value])
      | none => q.probeResults.get? node.label
  /-- There are no other values. -/
  labels : ∀ label : String, (∀ node ∈ q.nodes, node.label ≠ label) →
    after.probeResults.get? label = q.probeResults.get? label
  /-- Any nodes might follow the one that failed. -/
  later : passed.length < q.nodes.length → ∀ others : List Node,
    Run.ofNodes call.filter call.watch (q.nodes.take (passed.length + 1) ++ others) call.payload
        (.ofContext call.payload.context) =
      Run.ofNodes call.filter call.watch q.nodes call.payload (.ofContext call.payload.context)

theorem Positioned.stops (hq : q.Positioned) (hsteady : ∀ node ∈ q.nodes, node.processor.Steady)
    (call : ProcessCall) :
    ∃ passed last, q.Stops call passed last (q.process call.filter call.watch call.payload).1
      (q.process call.filter call.watch call.payload).2 := by
  obtain ⟨last, hending, hevents⟩ := Run.of_ending call.filter call.watch hsteady call.payload
  have hcompleted : ∀ j : Nat, (q.runOf call).completed[j]? =
      (passages call.filter q.nodes (.start call.payload))[j]?.map (·.record call.watch) := by
    intro j
    rw [completed_eq, List.getElem?_map]
  refine ⟨passages call.filter q.nodes (.start call.payload), last, ?_⟩
  constructor
  case length_le =>
    rcases hending with ⟨hlength, -⟩ | ⟨node, e, hnode, -⟩
    · exact Nat.le_of_eq hlength
    · exact Nat.le_of_lt (List.getElem?_eq_some_iff.mp hnode).1
  case linked => exact passages_linked call.filter q.nodes (.start call.payload)
  case ending =>
    rcases hending with hend | ⟨node, e, hnode, hexecute, hresult, hlast⟩
    · exact .inl hend
    · have hblamed := (Node.execute_eq_error_iff.mp hexecute).blamed?
      rw [hq _ node hnode] at hblamed
      exact .inr ⟨node, e, hnode, hexecute, hresult, hblamed, hlast⟩
  case events => exact hevents
  case messages =>
    show (Run.of _ _ _ _).events.filter _ = _
    rw [hevents, List.filter_append, List.filter_cons_of_pos rfl, Passage.filter_events]
    rfl
  case origins => exact (Run.ofNodes_eq call.filter call.watch q.nodes (.start call.payload)).2.1
  case lastRun => exact lastRun_of_steady hsteady [] call.filter call.watch call.payload
  case timings =>
    intro j
    rw [hq.timing_process, hcompleted]
    cases (passages call.filter q.nodes (.start call.payload))[j]? <;> rfl
  case probeResults =>
    intro j node hnode
    rw [hq.get?_process call hnode, hcompleted]
    cases (passages call.filter q.nodes (.start call.payload))[j]? <;> rfl
  case labels => exact fun label => get?_process_of_ne call
  case later =>
    exact fun h others => (Run.ofNodes_replace call.filter call.watch h others :)

/-- Whatever calls a pipeline has behind it, the next one completes its nodes up to the first that
fails, reports that failure, and shows no trace of the nodes behind.  A node fails at the first of
its stages that fails, and its processor is only asked at the last. -/
theorem process_stops_at_first_failure {registry : Registry} {configs : List NodeConfig}
    {p : Pipeline} (hp : Pipeline.new registry configs = .ok p)
    (hsteady : ∀ node ∈ p.nodes, node.processor.Steady) (history : List ProcessCall)
    (call : ProcessCall) :
    let q := p.processAll history
    (∃ passed last, q.Stops call passed last (q.process call.filter call.watch call.payload).1
      (q.process call.filter call.watch call.payload).2) ∧
    ∀ node ∈ p.nodes, ∀ (filter : LogFilter) (payload : Payload) (origins : KeyOrigins)
      (e : PipelineError),
      (node.execute filter payload origins = .error e ↔ node.Fails filter payload origins e) ∧
        ∀ other, node.SameInterface other → e.isRefusal = false →
          node.execute filter payload origins = .error e →
            other.execute filter payload origins = .error e := by
  intro q
  have hnodes : q.nodes = p.nodes := p.processAll_nodes history
  have hpositioned : q.Positioned := by
    intro t node hnode
    exact Topology.build_index (nodes_of_new hp) (hnodes ▸ hnode)
  refine ⟨hpositioned.stops (hnodes ▸ hsteady) call, fun node _ filter payload origins e =>
    ⟨Node.execute_eq_error_iff, fun other hsame he h => ?_⟩⟩
  exact Node.execute_eq_error_iff.mpr ((Node.execute_eq_error_iff.mp h).of_sameInterface hsame he)

/-- The second of three nodes gets data of the wrong type, in this call as in the one before. -/
theorem process_stops_at_first_failure_of_mismatch :
    let call : ProcessCall := ⟨.all, .stopped, {}⟩
    ∃ p, Pipeline.new .builtin [{ processor := "data_type_probe" },
        { processor := "change_text_case" }, { processor := "delete:k" }] = .ok p ∧
      (∀ node ∈ p.nodes, node.processor.Steady) ∧
      let q := p.processAll [call]
      (∃ passed last, q.Stops call passed last (q.process call.filter call.watch call.payload).1
        (q.process call.filter call.watch call.payload).2) ∧
      (q.process call.filter call.watch call.payload).1.result =
        .error (.typeMismatch 1 "change_text_case" .text .empty) ∧
      (q.process call.filter call.watch call.payload).2.timings.map (·.calls) = [2, 0, 0] := by
  intro call
  obtain ⟨p, hp, hresult, hcalls⟩ : ∃ p, Pipeline.new .builtin [{ processor := "data_type_probe" },
        { processor := "change_text_case" }, { processor := "delete:k" }] = .ok p ∧
      ((p.processAll [call]).process call.filter call.watch call.payload).1.result =
        .error (.typeMismatch 1 "change_text_case" .text .empty) ∧
      ((p.processAll [call]).process call.filter call.watch
        call.payload).2.timings.map (·.calls) = [2, 0, 0] := ⟨_, rfl, rfl, rfl⟩
  have hsteady := (vetted_of_builtin hp).steady
  exact ⟨p, hp, hsteady, (process_stops_at_first_failure hp hsteady [call] call).1, hresult,
    hcalls⟩

end Pipeline

end Dataflow
