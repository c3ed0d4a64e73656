/-
The completed nodes of a run, with what was before and behind each of them.

A run keeps only the records of its nodes and where it ended.  A `Passage` is one
completed node with the payload and the key origins it started from, the arguments
its processor was called on, and its outcome; `passages` lists them in order.
`Run.ofNodes_eq` ties the list to the run: its records, the origins it ended with
and its result are those of the passages.
-/
import Dataflow.Pipeline
import Mathlib.Data.List.Basic

namespace Dataflow

/-- What is handed from node to node. -/
structure Checkpoint where
  payload : Payload
  origins : KeyOrigins

namespace Checkpoint

def context (c : Checkpoint) : Context := c.payload.context

/-- Where a run starts. -/
def start (payload : Payload) : Checkpoint := ⟨payload, .ofContext payload.context⟩

end Checkpoint

/-- A node that completed in a run. -/
structure Passage where
  node : Node
  before : Checkpoint
  outcome : NodeOutcome

namespace Passage

def after (p : Passage) : Checkpoint := ⟨p.outcome.payload, p.outcome.origins⟩

/-- The arguments on which the processor was called. -/
def params (p : Passage) : Parameters :=
  match p.node.resolve p.before.context p.before.origins with
  | .ok (params, _) => params
  | .error _ => .empty

def record (watch : Stopwatch) (p : Passage) : NodeRun := Run.recordOf watch p.node p.outcome

end Passage

/-- The nodes that complete from a checkpoint on. -/
def passages (filter : LogFilter) : List Node → Checkpoint → List Passage
  | [], _ => []
  | node :: rest, before =>
    match node.execute filter before.payload before.origins with
    | .ok outcome =>
      ⟨node, before, outcome⟩ :: passages filter rest ⟨outcome.payload, outcome.origins⟩
    | _ => []

/-- The checkpoint behind some passages. -/
def behind (start : Checkpoint) (passed : List Passage) : Checkpoint :=
  passed.foldl (fun _ p => p.after) start

/-- The checkpoint behind the first `t` passages. -/
def checkpointAt (start : Checkpoint) (passed : List Passage) (t : Nat) : Checkpoint :=
  behind start (passed.take t)

@[simp] theorem checkpointAt_length (start : Checkpoint) (passed : List Passage) :
    checkpointAt start passed passed.length = behind start passed := by
  rw [checkpointAt, List.take_length]

@[simp] theorem behind_nil (start : Checkpoint) : behind start [] = start := rfl

@[simp] theorem behind_cons (start : Checkpoint) (p : Passage) (passed : List Passage) :
    behind start (p :: passed) = behind p.after passed := rfl

@[simp] theorem behind_concat (start : Checkpoint) (passed : List Passage) (p : Passage) :
    behind start (passed ++ [p]) = p.after := by
  simp [behind]

namespace Node

/-! ## One node -/

variable {node : Node} {filter : LogFilter} {payload : Payload} {origins : KeyOrigins}

/-- A node completes when its input fits, its arguments resolve and its processor answers. -/
theorem execute_eq_ok_iff {outcome : NodeOutcome} :
    node.execute filter payload origins = .ok outcome ↔
      node.checkInput payload.data = .ok () ∧ ∃ params,
        node.resolve payload.context origins = .ok (params, outcome.sources) ∧
          node.apply filter params payload origins = .ok outcome.toEffect := by
  simp only [execute, Outcome.bind_eq_ok_iff, Outcome.lift_eq_ok_iff, Outcome.mapError_eq_ok_iff,
    Outcome.pure_eq]
  constructor
  · rintro ⟨u, hinput, ⟨params, sources⟩, hresolve, effect, happly, hok⟩
    cases hok
    exact ⟨hinput, params, hresolve, happly⟩
  · rintro ⟨hinput, params, hresolve, happly⟩
    exact ⟨(), hinput, (params, outcome.sources), hresolve, outcome.toEffect, happly, rfl⟩

theorem checkInput_eq_error_iff {data : TypedData} {e : PipelineError} :
    node.checkInput data = .error e ↔
      node.readsData = true ∧ node.inputType.accepts data.type = false ∧
        e = .typeMismatch node.index node.name node.inputType data.type := by
  unfold checkInput
  split
  · rename_i hmismatch
    rw [Bool.and_eq_true, Bool.not_eq_true'] at hmismatch
    constructor
    · intro h
      cases h
      exact ⟨hmismatch.1, hmismatch.2, rfl⟩
    · rintro ⟨-, -, rfl⟩
      rfl
  · rename_i hmatch
    refine ⟨nofun, fun ⟨hreads, hrefused, _⟩ => ?_⟩
    simp [hreads, hrefused] at hmatch

/-- A node fails at the first of its three stages that fails. -/
theorem execute_eq_error {e : PipelineError} (h : node.execute filter payload origins = .error e) :
    node.checkInput payload.data = .error e ∨
      node.checkInput payload.data = .ok () ∧
        (node.resolve payload.context origins = .error e ∨
          ∃ params sources cause, node.resolve payload.context origins = .ok (params, sources) ∧
            node.apply filter params payload origins = .error cause ∧
            e = .processor node.index node.name cause) := by
  simp only [execute, Outcome.bind_eq_error_iff, Outcome.lift_eq_error_iff,
    Outcome.lift_eq_ok_iff, Outcome.mapError_eq_error_iff] at h
  rcases h with hinput | ⟨⟨⟩, hinput, hresolve | ⟨⟨params, sources⟩, hresolve, happly | h⟩⟩
  · exact .inl hinput
  · exact .inr ⟨hinput, .inl hresolve⟩
  · obtain ⟨cause, happly, rfl⟩ := happly
    exact .inr ⟨hinput, .inr ⟨params, sources, cause, hresolve, happly, rfl⟩⟩
  · obtain ⟨effect, -, h⟩ := h
    cases h

theorem execute_eq_crash {m : Option String} (h : node.execute filter payload origins = .crash m) :
    ∃ params, node.apply filter params payload origins = .crash m := by
  simp only [execute, Outcome.bind_eq_crash_iff, Outcome.mapError_eq_crash_iff] at h
  rcases h with h | ⟨-, -, h | ⟨⟨params, sources⟩, -, h | h⟩⟩
  · exact absurd h (Outcome.lift_ne_crash _ m)
  · exact absurd h (Outcome.lift_ne_crash _ m)
  · exact ⟨params, h⟩
  · obtain ⟨effect, -, h⟩ := h
    cases h

/-- What a call of the processor can have done, if it completed. -/
inductive Applied (node : Node) (filter : LogFilter) (params : Parameters) (payload : Payload)
    (origins : KeyOrigins) : Effect → Prop
  | operation {p : Operation} {data : TypedData} (hp : node.processor = .operation p)
      (hcall : p.process payload.data params = .ok data) :
      Applied node filter params payload origins { payload := { payload with data }, origins }
  | probe {p : Probe} {value : Json} (hp : node.processor = .probe p)
      (hcall : p.probe payload.data params = .ok value) :
      Applied node filter params payload origins
        (.ofProbe node.index node.config.contextKeyword? payload origins value)
  | context {p : ContextProcessor} {gate : Gate} (hp : node.processor = .context p)
      (hcall : Gate.run (p.edit params)
        (.new payload.context p.name p.createdKeys p.suppressedKeys) = (.ok (), gate)) :
      Applied node filter params payload origins (.ofGate node.index payload.data origins gate)
  | source {p : Source} {data : TypedData} (hp : node.processor = .source p)
      (hcall : p.produce params = .ok data) :
      Applied node filter params payload origins { payload := { payload with data }, origins }
  | sink {p : Sink} {emissions : List Emission} (hp : node.processor = .sink p)
      (hcall : p.consume filter payload.data params = .ok emissions) :
      Applied node filter params payload origins { payload, origins, emissions }
  | payloadSource {p : PayloadSource} {produced : Payload}
      (hp : node.processor = .payloadSource p) (hcall : p.produce params = .ok produced) :
      Applied node filter params payload origins
        (.ofProduced node.index payload.context origins produced)
  | payloadSink {p : PayloadSink} {emissions : List Emission}
      (hp : node.processor = .payloadSink p)
      (hcall : p.consume filter payload params = .ok emissions) :
      Applied node filter params payload origins { payload, origins, emissions }

theorem applied {params : Parameters} {effect : Effect}
    (h : node.apply filter params payload origins = .ok effect) :
    node.Applied filter params payload origins effect := by
  unfold apply at h
  cases hp : node.processor with
  | operation p =>
    simp only [hp, Outcome.bind_eq_ok_iff, Outcome.pure_eq] at h
    obtain ⟨data, hcall, hok⟩ := h
    cases hok
    exact .operation hp hcall
  | probe p =>
    simp only [hp, Outcome.bind_eq_ok_iff, Outcome.pure_eq] at h
    obtain ⟨value, hcall, hok⟩ := h
    cases hok
    exact .probe hp hcall
  | context p =>
    simp only [hp, Outcome.bind_eq_ok_iff] at h
    obtain ⟨⟨⟩, hcall, hok⟩ := h
    cases hok
    exact .context hp (Prod.ext hcall rfl)
  | source p =>
    simp only [hp, Outcome.bind_eq_ok_iff, Outcome.pure_eq] at h
    obtain ⟨data, hcall, hok⟩ := h
    cases hok
    exact .source hp hcall
  | sink p =>
    simp only [hp, Outcome.bind_eq_ok_iff, Outcome.pure_eq] at h
    obtain ⟨emissions, hcall, hok⟩ := h
    cases hok
    exact .sink hp hcall
  | payloadSource p =>
    simp only [hp, Outcome.bind_eq_ok_iff, Outcome.pure_eq] at h
    obtain ⟨produced, hcall, hok⟩ := h
    cases hok
    exact .payloadSource hp hcall
  | payloadSink p =>
    simp only [hp, Outcome.bind_eq_ok_iff, Outcome.pure_eq] at h
    obtain ⟨emissions, hcall, hok⟩ := h
    cases hok
    exact .payloadSink hp hcall

end Node

theorem Passage.resolve_of_execute {filter : LogFilter} {p : Passage}
    (h : p.node.execute filter p.before.payload p.before.origins = .ok p.outcome) :
    p.node.resolve p.before.context p.before.origins = .ok (p.params, p.outcome.sources) := by
  obtain ⟨-, params, hresolve, -⟩ := Node.execute_eq_ok_iff.mp h
  have hparams : p.params = params := by
    unfold Passage.params Checkpoint.context
    rw [hresolve]
  rw [hparams]
  exact hresolve

/-- The processor was called on the arguments that are recorded. -/
theorem Passage.apply_of_execute {filter : LogFilter} {p : Passage}
    (h : p.node.execute filter p.before.payload p.before.origins = .ok p.outcome) :
    p.node.apply filter p.params p.before.payload p.before.origins = .ok p.outcome.toEffect := by
  obtain ⟨-, params, hresolve, happly⟩ := Node.execute_eq_ok_iff.mp h
  have hparams : (p.params, p.outcome.sources) = (params, p.outcome.sources) :=
    Except.ok.inj ((p.resolve_of_execute h).symm.trans hresolve)
  cases hparams
  exact happly

/-! ## A run -/

/-- The passages are linked: each starts behind the ones before it, at the next node. -/
structure Linked (filter : LogFilter) (nodes : List Node) (start : Checkpoint)
    (passed : List Passage) : Prop where
  node : ∀ (t : Nat) (p : Passage), passed[t]? = some p → nodes[t]? = some p.node
  before : ∀ (t : Nat) (p : Passage), passed[t]? = some p → p.before = behind start (passed.take t)
  execute : ∀ (t : Nat) (p : Passage), passed[t]? = some p →
    p.node.execute filter p.before.payload p.before.origins = .ok p.outcome

/-- What holds at the start, and behind every passage if it holds in front of it, holds behind any
number of passages. -/
theorem passage_induction {passed : List Passage} {motive : Nat → Prop} (start : motive 0)
    (step : ∀ (t : Nat) (p : Passage), passed[t]? = some p → motive t → motive (t + 1)) :
    ∀ t, t ≤ passed.length → motive t := by
  intro t
  induction t with
  | zero => exact fun _ => start
  | succ t ih =>
    exact fun ht => step t passed[t] (List.getElem?_eq_getElem ht) (ih (Nat.le_of_succ_le ht))

theorem Linked.take_succ {filter : LogFilter} {nodes : List Node} {start : Checkpoint}
    {passed : List Passage} (hlinked : Linked filter nodes start passed) {t : Nat} {p : Passage}
    (h : passed[t]? = some p) : nodes.take (t + 1) = nodes.take t ++ [p.node] := by
  rw [List.take_add_one, hlinked.node t p h]
  rfl

theorem passages_linked (filter : LogFilter) (nodes : List Node) (start : Checkpoint) :
    Linked filter nodes start (passages filter nodes start) := by
  induction nodes generalizing start with
  | nil =>
    constructor
    all_goals
      intro t p h
      simp [passages] at h
  | cons node rest ih =>
    unfold passages
    split
    · rename_i outcome hexecute
      have hrest := ih ⟨outcome.payload, outcome.origins⟩
      constructor
      · intro t p h
        cases t with
        | zero =>
          cases h
          rfl
        | succ t => exact hrest.node t p h
      · intro t p h
        cases t with
        | zero =>
          cases h
          rfl
        | succ t => exact hrest.before t p h
      · intro t p h
        cases t with
        | zero =>
          cases h
          exact hexecute
        | succ t => exact hrest.execute t p h
    · constructor
      all_goals
        intro t p h
        simp at h

namespace Run

theorem ofNodes_cons_ok {filter : LogFilter} {watch : Stopwatch} {node : Node} {rest : List Node}
    {payload : Payload} {origins : KeyOrigins} {outcome : NodeOutcome}
    (h : node.execute filter payload origins = .ok outcome) :
    ofNodes filter watch (node :: rest) payload origins =
      { ofNodes filter watch rest outcome.payload outcome.origins with
        completed := recordOf watch node outcome ::
          (ofNodes filter watch rest outcome.payload outcome.origins).completed
        events := eventsOf watch node outcome ++
          (ofNodes filter watch rest outcome.payload outcome.origins).events } := by
  rw [ofNodes, h]

/-- A run records its passages and ends behind them. -/
theorem ofNodes_eq (filter : LogFilter) (watch : Stopwatch) (nodes : List Node)
    (start : Checkpoint) :
    let run := ofNodes filter watch nodes start.payload start.origins
    let passed := passages filter nodes start
    run.completed = passed.map (·.record watch) ∧
      run.origins = (behind start passed).origins ∧
      ∀ payload, run.result = .ok payload → payload = (behind start passed).payload := by
  induction nodes generalizing start with
  | nil => exact ⟨rfl, rfl, fun payload h => by cases h; rfl⟩
  | cons node rest ih =>
    cases hexecute : node.execute filter start.payload start.origins with
    | ok outcome =>
      obtain ⟨hcompleted, horigins, hresult⟩ := ih ⟨outcome.payload, outcome.origins⟩
      rw [ofNodes_cons_ok hexecute, passages, hexecute]
      exact ⟨congrArg (recordOf watch node outcome :: ·) hcompleted, horigins, hresult⟩
    | error e =>
      rw [ofNodes, passages, hexecute]
      exact ⟨rfl, rfl, fun payload h => by cases h⟩
    | crash m =>
      rw [ofNodes, passages, hexecute]
      exact ⟨rfl, rfl, fun payload h => by cases h⟩

/-- A run completes all its nodes, or ends as the first node does that does not complete. -/
theorem ofNodes_ending (filter : LogFilter) (watch : Stopwatch) (nodes : List Node)
    (start : Checkpoint) :
    let run := ofNodes filter watch nodes start.payload start.origins
    let passed := passages filter nodes start
    let last := behind start passed
    (passed.length = nodes.length ∧ run.result = .ok last.payload) ∨
      ∃ node, nodes[passed.length]? = some node ∧
        ((∃ e, node.execute filter last.payload last.origins = .error e ∧ run.result = .error e) ∨
          ∃ m, node.execute filter last.payload last.origins = .crash m ∧
            run.result = .crash m) := by
  induction nodes generalizing start with
  | nil => exact .inl ⟨rfl, rfl⟩
  | cons node rest ih =>
    cases hexecute : node.execute filter start.payload start.origins with
    | ok outcome =>
      rw [ofNodes_cons_ok hexecute, passages, hexecute]
      rcases ih ⟨outcome.payload, outcome.origins⟩ with ⟨hlength, hresult⟩ | ⟨n, hn, hend⟩
      · exact .inl ⟨congrArg (· + 1) hlength, hresult⟩
      · exact .inr ⟨n, hn, hend⟩
    | error e =>
      rw [ofNodes, passages, hexecute]
      exact .inr ⟨node, rfl, .inl ⟨e, hexecute, rfl⟩⟩
    | crash m =>
      rw [ofNodes, passages, hexecute]
      exact .inr ⟨node, rfl, .inr ⟨m, hexecute, rfl⟩⟩

/-- A run only crashes where a node does. -/
theorem ofNodes_ne_crash_of_execute {filter : LogFilter} {nodes : List Node}
    (hnodes : ∀ node ∈ nodes, ∀ (c : Checkpoint) (m : Option String),
      node.execute filter c.payload c.origins ≠ .crash m)
    (watch : Stopwatch) (start : Checkpoint) (m : Option String) :
    (ofNodes filter watch nodes start.payload start.origins).result ≠ .crash m := by
  intro hcrash
  rcases ofNodes_ending filter watch nodes start with
    ⟨-, hok⟩ | ⟨node, hnode, ⟨e, -, herror⟩ | ⟨m', hexecute, -⟩⟩
  · cases hok.symm.trans hcrash
  · cases herror.symm.trans hcrash
  · exact hnodes node (List.mem_of_getElem? hnode) _ m' hexecute

/-- A run that fails does so at the first node that it did not complete. -/
theorem of_eq_error {filter : LogFilter} {watch : Stopwatch} {nodes : List Node}
    {payload : Payload} {e : PipelineError}
    (h : (of filter watch nodes payload).result = .error e) :
    let passed := passages filter nodes (.start payload)
    let last := behind (.start payload) passed
    ∃ node, nodes[passed.length]? = some node ∧
      node.execute filter last.payload last.origins = .error e := by
  rcases ofNodes_ending filter watch nodes (.start payload) with
    ⟨-, hok⟩ | ⟨node, hnode, ⟨e', hexecute, herror⟩ | ⟨m, -, hcrash⟩⟩
  · cases hok.symm.trans h
  · cases herror.symm.trans h
    exact ⟨node, hnode, hexecute⟩
  · cases hcrash.symm.trans h

end Run

/-! ## A pipeline -/

/-- What a call of a pipeline is given. -/
structure ProcessCall where
  filter : LogFilter
  watch : Stopwatch
  payload : Payload

namespace Pipeline

/-- The pipeline behind calls made one after another. -/
def processAll (p : Pipeline) (calls : List ProcessCall) : Pipeline :=
  calls.foldl (fun p call => (p.process call.filter call.watch call.payload).2) p

@[simp] theorem processAll_nodes (p : Pipeline) (calls : List ProcessCall) :
    (p.processAll calls).nodes = p.nodes := by
  induction calls generalizing p with
  | nil => rfl
  | cons call rest ih => exact ih (p.process call.filter call.watch call.payload).2

/-- Earlier calls have no part in a run. -/
theorem process_processAll (p : Pipeline) (history : List ProcessCall) (filter : LogFilter)
    (watch : Stopwatch) (payload : Payload) :
    ((p.processAll history).process filter watch payload).1 =
      Run.of filter watch p.nodes payload := by
  rw [process, processAll_nodes]

/-- A call keeps its records as the latest run, unless it crashed. -/
theorem process_lastRun (p : Pipeline) (filter : LogFilter) (watch : Stopwatch)
    (payload : Payload) :
    (p.process filter watch payload).2.lastRun =
        (p.process filter watch payload).1.completed ∨
      ∃ m, (p.process filter watch payload).1.result = .crash m ∧
        (p.process filter watch payload).2.lastRun = p.lastRun := by
  simp only [process, remember]
  cases hresult : (Run.of filter watch p.nodes payload).result with
  | ok result => exact .inl rfl
  | error e => exact .inl rfl
  | crash m => exact .inr ⟨m, rfl, rfl⟩

theorem lastRun_of_ne_crash {p : Pipeline} {filter : LogFilter} {watch : Stopwatch}
    {payload : Payload} (h : ∀ m, (p.process filter watch payload).1.result ≠ .crash m) :
    (p.process filter watch payload).2.lastRun = (p.process filter watch payload).1.completed := by
  rcases p.process_lastRun filter watch payload with hlast | ⟨m, hcrash, -⟩
  · exact hlast
  · exact absurd hcrash (h m)

end Pipeline

/-! ## Positions -/

theorem Node.bind_eq_ok_iff {index : Nat} {config : NodeConfig} {processor : Processor}
    {node : Node} :
    Node.bind index config processor = .ok node ↔
      ¬ (config.contextKeyword?.isSome ∧ processor.kind ≠ .dataProbe) ∧
        Node.undeclared? config processor = none ∧ node = ⟨index, config, processor⟩ := by
  unfold Node.bind
  split
  · rename_i hkeyword
    exact ⟨nofun, fun h => absurd hkeyword h.1⟩
  · rename_i hkeyword
    cases Node.undeclared? config processor with
    | some name => exact ⟨nofun, fun h => nomatch h.2.1⟩
    | none =>
      refine ⟨fun h => ?_, fun h => congrArg Except.ok h.2.2.symm⟩
      cases h
      exact ⟨hkeyword, rfl, rfl⟩

namespace Topology

theorem bindNode_eq_ok_iff {registry : Registry} {index : Nat} {config : NodeConfig} {node : Node} :
    bindNode registry index config = .ok node ↔ ∃ processor,
      registry.resolve config.processor = .ok processor ∧
        ¬ (config.contextKeyword?.isSome ∧ processor.kind ≠ .dataProbe) ∧
        Node.undeclared? config processor = none ∧ node = ⟨index, config, processor⟩ := by
  simp only [bindNode, Except.bind_eq_ok_iff, Except.mapError_eq_ok_iff, Node.bind_eq_ok_iff]

theorem bindFrom_cons_eq_ok_iff {registry : Registry} {index : Nat} {config : NodeConfig}
    {rest : List NodeConfig} {nodes : List Node} :
    bindFrom registry index (config :: rest) = .ok nodes ↔ ∃ node tail,
      bindNode registry index config = .ok node ∧
        bindFrom registry (index + 1) rest = .ok tail ∧ nodes = node :: tail := by
  simp only [bindFrom, Except.bind_eq_ok_iff]
  constructor
  · rintro ⟨node, hnode, tail, htail, hok⟩
    cases hok
    exact ⟨node, tail, hnode, htail, rfl⟩
  · rintro ⟨node, tail, hnode, htail, rfl⟩
    exact ⟨node, hnode, tail, htail, rfl⟩

theorem bindFrom_index {registry : Registry} {configs : List NodeConfig} :
    ∀ {first : Nat} {nodes : List Node}, bindFrom registry first configs = .ok nodes →
      ∀ (t : Nat) (node : Node), nodes[t]? = some node → node.index = first + t := by
  induction configs with
  | nil =>
    intro first nodes h t node hnode
    cases h
    simp at hnode
  | cons config rest ih =>
    intro first nodes h t node hnode
    obtain ⟨head, tail, hbind, hrest, rfl⟩ := bindFrom_cons_eq_ok_iff.mp h
    cases t with
    | zero =>
      cases hnode
      obtain ⟨processor, -, -, -, rfl⟩ := bindNode_eq_ok_iff.mp hbind
      rfl
    | succ t =>
      have := ih hrest t node hnode
      omega

/-- The last element of its kind stays the last one if what is added behind is not of the kind. -/
theorem exists_last_concat_iff {α : Type} {P Q : α → Prop} {l : List α} {x y : α} :
    (∃ earlier later, l ++ [y] = earlier ++ x :: later ∧ P x ∧ ∀ a ∈ later, Q a) ↔
      y = x ∧ P x ∨
        Q y ∧ ∃ earlier later, l = earlier ++ x :: later ∧ P x ∧ ∀ a ∈ later, Q a := by
  constructor
  · rintro ⟨earlier, later, hsplit, hx, hlater⟩
    rcases later.eq_nil_or_concat with rfl | ⟨later, last, rfl⟩
    · obtain ⟨-, hlast⟩ := List.append_inj' hsplit rfl
      cases hlast
      exact .inl ⟨rfl, hx⟩
    · rw [List.concat_eq_append] at hsplit hlater
      rw [← List.cons_append, ← List.append_assoc] at hsplit
      obtain ⟨rfl, hlast⟩ := List.append_inj' hsplit rfl
      cases hlast
      exact .inr ⟨hlater y (by simp), earlier, later, rfl, hx,
        fun a ha => hlater a (List.mem_append_left _ ha)⟩
  · rintro (⟨rfl, hx⟩ | ⟨hy, earlier, later, rfl, hx, hlater⟩)
    · exact ⟨l, [], rfl, hx, nofun⟩
    · refine ⟨earlier, later ++ [y], by simp, hx, fun a ha => ?_⟩
      rcases List.mem_append.mp ha with ha | ha
      · exact hlater a ha
      · exact List.mem_singleton.mp ha ▸ hy

/-- A node in front of a position is found at its own index. -/
theorem index_of_mem_take {registry : Registry} {configs : List NodeConfig} {nodes : List Node}
    (hbound : bindFrom registry 0 configs = .ok nodes) {t : Nat} {node : Node}
    (h : node ∈ nodes.take t) : node.index < t ∧ nodes[node.index]? = some node := by
  obtain ⟨s, hs⟩ := List.mem_iff_getElem?.mp h
  rw [List.getElem?_take, Option.ite_none_right_eq_some] at hs
  have hindex : node.index = s := by simpa using bindFrom_index hbound s node hs.2
  rw [hindex]
  exact hs

theorem resolve_of_mem_bindFrom {registry : Registry} {configs : List NodeConfig} :
    ∀ {first : Nat} {nodes : List Node}, bindFrom registry first configs = .ok nodes →
      ∀ node ∈ nodes, registry.resolve node.config.processor = .ok node.processor := by
  induction configs with
  | nil =>
    intro first nodes h node hnode
    cases h
    cases hnode
  | cons config rest ih =>
    intro first nodes h node hnode
    obtain ⟨head, tail, hbind, hrest, rfl⟩ := bindFrom_cons_eq_ok_iff.mp h
    rcases List.mem_cons.mp hnode with rfl | hnode
    · obtain ⟨processor, hresolve, -, -, rfl⟩ := bindNode_eq_ok_iff.mp hbind
      exact hresolve
    · exact ih hrest node hnode

theorem build_eq_ok_iff {registry : Registry} {configs : List NodeConfig} {nodes : List Node} :
    build registry configs = .ok nodes ↔
      bindFrom registry 0 configs = .ok nodes ∧ checkAdjacency none nodes = .ok () ∧
        checkDeletedKeys nodes = .ok () := by
  simp only [build, Except.bind_eq_ok_iff]
  constructor
  · rintro ⟨bound, hbind, ⟨⟩, hadjacency, ⟨⟩, hdeleted, hok⟩
    cases hok
    exact ⟨hbind, hadjacency, hdeleted⟩
  · rintro ⟨hbind, hadjacency, hdeleted⟩
    exact ⟨nodes, hbind, (), hadjacency, (), hdeleted, rfl⟩

/-- In a list that passes the checks, every node knows its position. -/
theorem build_index {registry : Registry} {configs : List NodeConfig} {nodes : List Node}
    (h : build registry configs = .ok nodes) {t : Nat} {node : Node}
    (hnode : nodes[t]? = some node) : node.index = t := by
  simpa using bindFrom_index (build_eq_ok_iff.mp h).1 t node hnode

end Topology

theorem Pipeline.new_eq_ok_iff {registry : Registry} {configs : List NodeConfig} {p : Pipeline} :
    Pipeline.new registry configs = .ok p ↔
      ∃ nodes, Topology.build registry configs = .ok nodes ∧ p = .ofNodes nodes := by
  unfold Pipeline.new
  cases Topology.build registry configs with
  | error e => exact ⟨nofun, fun ⟨_, h, _⟩ => nomatch h⟩
  | ok nodes =>
    constructor
    · intro h
      cases h
      exact ⟨nodes, rfl, rfl⟩
    · rintro ⟨_, h, rfl⟩
      cases h
      rfl

theorem Pipeline.nodes_of_new {registry : Registry} {configs : List NodeConfig} {p : Pipeline}
    (h : Pipeline.new registry configs = .ok p) :
    Topology.build registry configs = .ok p.nodes := by
  obtain ⟨nodes, hbuild, rfl⟩ := Pipeline.new_eq_ok_iff.mp h
  exact hbuild

end Dataflow
