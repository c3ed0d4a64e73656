/-
Pipelines compose: a list of nodes does what its two parts do one after the other.

The checks and the run carry more along a list than the payload: the most recent producer,
the deleted keys, the positions of the nodes, the key origins.  None of it decides what a run
delivers.  `Node.transform` is what a node makes of a payload, without the origins, and a run
is the fold of it over the nodes (`Run.result_ofNodes`).  Moving nodes along a list, with
`Node.shift`, only moves the positions in their errors (`Node.transform_shift`).  For the
checks it is enough that the second part starts with fewer restrictions on its own
(`Topology.checkAdjacency_of_shift`, `Topology.checkDeletedFrom_of_shift`).
-/
import Dataflow.Proofs.Pipeline.Declared
import Dataflow.Proofs.Pipeline.Resolution
import Dataflow.Proofs.Pipeline.Typing

namespace Dataflow

theorem Outcome.foldlM_mapError {ε ε' α β : Type} (f : ε → ε') (step : α → β → Outcome ε α)
    (xs : List β) (a : α) :
    xs.foldlM (fun a x => (step a x).mapError f) a = (xs.foldlM step a).mapError f := by
  induction xs generalizing a with
  | nil => rfl
  | cons x rest ih => simp only [List.foldlM_cons, mapError_bind, ih]

/-! ## Moving nodes -/

/-- The node, a number of positions further on. -/
def Node.shift (offset : Nat) (node : Node) : Node := { node with index := offset + node.index }

namespace PipelineError

/-- The position of the node that failed. -/
def node? : PipelineError → Option Nat
  | missingParameter index _ _ => some index
  | typeMismatch index _ _ _ => some index
  | processor index _ _ => some index
  | _ => none

/-- The error of a node that is moved. -/
def shift (offset : Nat) : PipelineError → PipelineError
  | missingParameter index name parameter => missingParameter (offset + index) name parameter
  | typeMismatch index name expected actual => typeMismatch (offset + index) name expected actual
  | processor index name e => processor (offset + index) name e
  | e => e

theorem node?_shift (offset : Nat) (e : PipelineError) :
    (e.shift offset).node? = e.node?.map (offset + ·) := by
  cases e <;> rfl

theorem shift_zero (e : PipelineError) : e.shift 0 = e := by
  cases e with
  | missingParameter index name parameter => rw [shift, Nat.zero_add]
  | typeMismatch index name expected actual => rw [shift, Nat.zero_add]
  | processor index name e => rw [shift, Nat.zero_add]
  | _ => rfl

end PipelineError

namespace Node

variable (offset : Nat) (node : Node) (filter : LogFilter) (params : Parameters)
  (payload : Payload) (origins origins' : KeyOrigins)

@[simp] theorem shift_config : (node.shift offset).config = node.config := rfl

@[simp] theorem shift_processor : (node.shift offset).processor = node.processor := rfl

theorem shift_zero : node.shift 0 = node := by
  rw [shift, Nat.zero_add]

theorem checkInput_shift (data : TypedData) :
    (node.shift offset).checkInput data = (node.checkInput data).mapError (.shift offset) := by
  unfold checkInput readsData inputType
  rw [shift_processor]
  split <;> rfl

/-- A moved node resolves to the same arguments, whatever the origins are. -/
theorem resolve_shift (context : Context) :
    (∃ params sources sources', node.resolve context origins = .ok (params, sources) ∧
        (node.shift offset).resolve context origins' = .ok (params, sources')) ∨
      ∃ e, node.resolve context origins = .error e ∧
        (node.shift offset).resolve context origins' = .error (e.shift offset) := by
  simp only [resolve, resolveFrom_eq, value?, shift_config, shift_processor]
  split
  · exact .inr ⟨_, rfl, rfl⟩
  · exact .inl ⟨_, _, _, rfl, rfl⟩

/-- The call of a moved node leaves the same payload. -/
theorem apply_shift :
    (·.payload) <$> (node.shift offset).apply filter params payload origins' =
      (·.payload) <$> node.apply filter params payload origins := by
  unfold apply
  rw [shift_processor]
  cases node.processor with
  | operation p =>
    dsimp only
    cases p.process payload.data params <;> rfl
  | probe p =>
    dsimp only [shift_config]
    cases p.probe payload.data params with
    | ok value => cases node.config.contextKeyword? <;> rfl
    | error e => rfl
    | crash m => rfl
  | context p =>
    dsimp only
    cases (Gate.run (p.edit params) (.new payload.context p.name p.createdKeys
      p.suppressedKeys)).1 <;> rfl
  | source p =>
    dsimp only
    cases p.produce params <;> rfl
  | sink p =>
    dsimp only
    cases p.consume filter payload.data params <;> rfl
  | payloadSource p =>
    dsimp only
    cases p.produce params <;> rfl
  | payloadSink p =>
    dsimp only
    cases p.consume filter payload params <;> rfl

/-- Once the arguments are resolved, the payload is the one that the call leaves. -/
theorem payload_of_resolve {node : Node} {payload : Payload} {origins : KeyOrigins}
    {params : Parameters} {sources : KeyMap ParameterSource} (filter : LogFilter)
    (hinput : node.checkInput payload.data = .ok ())
    (hresolve : node.resolve payload.context origins = .ok (params, sources)) :
    (·.payload) <$> node.execute filter payload origins =
      ((·.payload) <$> node.apply filter params payload origins).mapError
        (.processor node.index node.name) := by
  simp only [execute, hinput, hresolve, Outcome.lift_ok, Outcome.ok_bind]
  cases node.apply filter params payload origins <;> rfl

/-- A moved node makes the same of a payload, up to the position in its error, and the origins have
no part in it. -/
theorem execute_shift :
    (·.payload) <$> (node.shift offset).execute filter payload origins' =
      ((·.payload) <$> node.execute filter payload origins).mapError (.shift offset) := by
  have hshift := node.checkInput_shift offset payload.data
  cases hinput : node.checkInput payload.data with
  | error e =>
    rw [hinput] at hshift
    unfold execute
    rw [hinput, hshift]
    rfl
  | ok u =>
    rw [hinput] at hshift
    obtain ⟨params, sources, sources', hresolve, hmoved⟩ | ⟨e, hresolve, hmoved⟩ :=
      node.resolve_shift offset origins origins' payload.context
    · rw [payload_of_resolve filter hinput hresolve, payload_of_resolve filter hshift hmoved,
        apply_shift offset node filter params payload origins origins']
      cases (·.payload) <$> node.apply filter params payload origins <;> rfl
    · unfold execute
      rw [hinput, hshift, hresolve, hmoved]
      rfl

/-- The error of a node names its position. -/
theorem node?_of_execute {node : Node} {filter : LogFilter} {payload : Payload}
    {origins : KeyOrigins} {e : PipelineError}
    (h : node.execute filter payload origins = .error e) : e.node? = some node.index := by
  rcases execute_eq_error h with hinput | ⟨-, hresolve | ⟨params, sources, cause, -, -, rfl⟩⟩
  · obtain ⟨-, -, rfl⟩ := checkInput_eq_error_iff.mp hinput
    rfl
  · obtain ⟨key, -, -, rfl⟩ := resolve_eq_error hresolve
    rfl
  · rfl

/-- What a node makes of a payload. -/
def transform : Outcome PipelineError Payload :=
  (·.payload) <$> node.execute filter payload .empty

theorem payload_of_execute :
    (·.payload) <$> node.execute filter payload origins = node.transform filter payload := by
  -- A node moved by nothing is the node itself, with origins of its own.
  have h := node.execute_shift 0 filter payload .empty origins
  rw [shift_zero] at h
  rw [h, transform]
  cases (·.payload) <$> node.execute filter payload .empty with
  | error e => exact congrArg Outcome.error e.shift_zero
  | _ => rfl

theorem transform_shift :
    (node.shift offset).transform filter payload =
      (node.transform filter payload).mapError (.shift offset) :=
  node.execute_shift offset filter payload .empty .empty

end Node

/-! ## The run -/

namespace Run

/-- A run folds its nodes over the payload. -/
theorem result_ofNodes (filter : LogFilter) (watch : Stopwatch) (nodes : List Node)
    (payload : Payload) (origins : KeyOrigins) :
    (ofNodes filter watch nodes payload origins).result =
      nodes.foldlM (fun payload node => node.transform filter payload) payload := by
  induction nodes generalizing payload origins with
  | nil => rfl
  | cons node rest ih =>
    rw [List.foldlM_cons, ← node.payload_of_execute filter payload origins, ofNodes]
    cases node.execute filter payload origins with
    | ok outcome => exact ih outcome.payload outcome.origins
    | error e => rfl
    | crash m => rfl

theorem node?_of_error {filter : LogFilter} {watch : Stopwatch} {nodes : List Node}
    {payload : Payload} {e : PipelineError}
    (hindex : ∀ (t : Nat) (node : Node), nodes[t]? = some node → node.index = t)
    (h : (of filter watch nodes payload).result = .error e) :
    ∃ i, i < nodes.length ∧ e.node? = some i := by
  obtain ⟨node, hnode, hexecute⟩ := of_eq_error h
  refine ⟨_, (List.getElem?_eq_some_iff.mp hnode).1, ?_⟩
  rw [Node.node?_of_execute hexecute, hindex _ node hnode]

end Run

/-! ## The checks -/

namespace Topology

variable {registry : Registry}

theorem bindFrom_append {index : Nat} {first second : List NodeConfig} {nodes : List Node} :
    bindFrom registry index (first ++ second) = .ok nodes ↔ ∃ before after,
      bindFrom registry index first = .ok before ∧
        bindFrom registry (index + first.length) second = .ok after ∧
        nodes = before ++ after := by
  induction first generalizing index nodes with
  | nil =>
    constructor
    · exact fun h => ⟨[], nodes, rfl, h, rfl⟩
    · rintro ⟨before, after, hbefore, hafter, rfl⟩
      cases hbefore
      exact hafter
  | cons config rest ih =>
    rw [List.cons_append, List.length_cons, Nat.add_comm rest.length 1, ← Nat.add_assoc]
    simp only [bindFrom_cons_eq_ok_iff, ih]
    constructor
    · rintro ⟨node, tail, hnode, ⟨before, after, hbefore, hafter, rfl⟩, rfl⟩
      exact ⟨node :: before, after, ⟨node, before, hnode, hbefore, rfl⟩, hafter, rfl⟩
    · rintro ⟨_, after, ⟨node, before, hnode, hbefore, rfl⟩, hafter, rfl⟩
      exact ⟨node, before ++ after, hnode, ⟨before, after, hbefore, hafter, rfl⟩, rfl⟩

/-- Nodes bound at a later position are the nodes bound at an earlier one, moved. -/
theorem exists_of_bindFrom (offset : Nat) {configs : List NodeConfig} :
    ∀ {index : Nat} {nodes : List Node}, bindFrom registry (offset + index) configs = .ok nodes →
      ∃ bound, bindFrom registry index configs = .ok bound ∧
        nodes = bound.map (.shift offset) := by
  induction configs with
  | nil =>
    intro index nodes h
    cases h
    exact ⟨[], rfl, rfl⟩
  | cons config rest ih =>
    intro index nodes h
    obtain ⟨node, tail, hnode, htail, rfl⟩ := bindFrom_cons_eq_ok_iff.mp h
    obtain ⟨processor, hresolve, hkeyword, hdeclared, rfl⟩ := bindNode_eq_ok_iff.mp hnode
    rw [Nat.add_assoc] at htail
    obtain ⟨bound, hbound, rfl⟩ := ih htail
    have hhead : bindNode registry index config = .ok ⟨index, config, processor⟩ :=
      bindNode_eq_ok_iff.mpr ⟨processor, hresolve, hkeyword, hdeclared, rfl⟩
    exact ⟨⟨index, config, processor⟩ :: bound,
      bindFrom_cons_eq_ok_iff.mpr ⟨_, bound, hhead, hbound, rfl⟩, rfl⟩

theorem checkAdjacency_append {producer? : Option Node} {before after : List Node} :
    checkAdjacency producer? (before ++ after) = .ok () ↔
      checkAdjacency producer? before = .ok () ∧
        checkAdjacency (lastProducer? producer? before) after = .ok () := by
  induction before generalizing producer? with
  | nil => exact ⟨fun h => ⟨rfl, h⟩, And.right⟩
  | cons node rest ih =>
    rw [List.cons_append, checkAdjacency_cons, checkAdjacency_cons, ih, and_assoc]
    rfl

/-- Nodes that pass behind a producer also pass at another position behind a producer of the same
output type, or behind none. -/
theorem checkAdjacency_of_shift (offset : Nat) {nodes : List Node} :
    ∀ {producer? producer?' : Option Node},
      (∀ producer', producer?' = some producer' →
        ∃ producer, producer? = some producer ∧ producer.outputType = producer'.outputType) →
      checkAdjacency producer? (nodes.map (.shift offset)) = .ok () →
      checkAdjacency producer?' nodes = .ok () := by
  -- The first producer in the list itself makes both sides remember nodes of one output type.
  induction nodes with
  | nil => exact fun _ _ => rfl
  | cons node rest ih =>
    intro producer? producer?' hproducer h
    rw [List.map_cons, checkAdjacency_cons] at h
    rw [checkAdjacency_cons]
    constructor
    · intro hreads producer' hproducer'
      obtain ⟨producer, hsome, htype⟩ := hproducer producer' hproducer'
      have hpair := h.1 hreads producer hsome
      rw [htype] at hpair
      exact hpair
    · refine ih ?_ h.2
      intro producer' hproducer'
      by_cases hproduces : node.producesData = true
      · rw [if_pos hproduces] at hproducer'
        cases hproducer'
        exact ⟨node.shift offset, if_pos hproduces, rfl⟩
      · rw [if_neg hproduces] at hproducer'
        rw [if_neg (show ¬ (node.shift offset).producesData = true from hproduces)]
        exact hproducer producer' hproducer'

theorem checkDeletedFrom_append {deleters : KeyMap Node} {before after : List Node} :
    checkDeletedFrom deleters (before ++ after) = .ok () ↔
      checkDeletedFrom deleters before = .ok () ∧
        checkDeletedFrom (before.foldl updateDeleters deleters) after = .ok () := by
  induction before generalizing deleters with
  | nil => exact ⟨fun h => ⟨rfl, h⟩, And.right⟩
  | cons node rest ih =>
    rw [List.cons_append, checkDeletedFrom_cons, checkDeletedFrom_cons, ih, and_assoc]
    rfl

/-- Nodes that pass behind deletions also pass at another position behind fewer. -/
theorem checkDeletedFrom_of_shift (offset : Nat) {nodes : List Node} :
    ∀ {deleters deleters' : KeyMap Node},
      (∀ key, deleters.get? key = none → deleters'.get? key = none) →
      checkDeletedFrom deleters (nodes.map (.shift offset)) = .ok () →
      checkDeletedFrom deleters' nodes = .ok () := by
  induction nodes with
  | nil => exact fun _ _ => rfl
  | cons node rest ih =>
    intro deleters deleters' hfewer h
    rw [List.map_cons, checkDeletedFrom_cons] at h
    rw [checkDeletedFrom_cons]
    refine ⟨fun key hkey => hfewer key (h.1 key hkey), ih (fun key => ?_) h.2⟩
    rw [get?_updateDeleters, get?_updateDeleters]
    show (if key ∈ node.createdKeys then none else if key ∈ node.suppressedKeys then _ else _) =
      none → _
    split
    · exact id
    · split
      · exact nofun
      · exact hfewer key

/-- If a list passes the checks, its two parts do, and it is the first part followed by the second
one moved behind it. -/
theorem build_append {first second : List NodeConfig} {nodes : List Node}
    (h : build registry (first ++ second) = .ok nodes) :
    ∃ before after, build registry first = .ok before ∧ build registry second = .ok after ∧
      nodes = before ++ after.map (.shift first.length) := by
  obtain ⟨hbind, hadjacency, hdeleted⟩ := build_eq_ok_iff.mp h
  obtain ⟨before, moved, hbefore, hmoved, rfl⟩ := bindFrom_append.mp hbind
  rw [Nat.add_comm] at hmoved
  obtain ⟨after, hafter, rfl⟩ := exists_of_bindFrom first.length hmoved
  rw [checkAdjacency_append] at hadjacency
  rw [checkDeletedKeys, checkDeletedFrom_append] at hdeleted
  exact ⟨before, after, build_eq_ok_iff.mpr ⟨hbefore, hadjacency.1, hdeleted.1⟩,
    build_eq_ok_iff.mpr ⟨hafter, checkAdjacency_of_shift first.length nofun hadjacency.2,
      checkDeletedFrom_of_shift first.length (fun key _ => rfl) hdeleted.2⟩, rfl⟩

end Topology

/-! ## Pipelines -/

namespace Pipeline

/-- What a call delivers, behind other calls. -/
def delivers (p : Pipeline) (history : List ProcessCall) (call : ProcessCall) :
    Outcome PipelineError Payload :=
  ((p.processAll history).process call.filter call.watch call.payload).1.result

theorem delivers_eq (p : Pipeline) (history : List ProcessCall) (call : ProcessCall) :
    p.delivers history call =
      p.nodes.foldlM (fun payload node => node.transform call.filter payload) call.payload := by
  rw [delivers, process_processAll]
  exact Run.result_ofNodes call.filter call.watch p.nodes call.payload _

/-- Pipelines compose, over every registry: if a list of nodes can be built, its two parts can.  In
any state of the three pipelines, the whole delivers what the second part makes of what the first
part delivers; an error of the first part is passed on, and an error of the second part names a
node of it, whose position is raised by the length of the first part. -/
theorem runs_compose {registry : Registry} {first second : List NodeConfig} {whole : Pipeline}
    (hwhole : Pipeline.new registry (first ++ second) = .ok whole) :
    ∃ p q, Pipeline.new registry first = .ok p ∧ Pipeline.new registry second = .ok q ∧
      (∀ (filter : LogFilter) (watch watch₁ watch₂ : Stopwatch)
          (history history₁ history₂ : List ProcessCall) (payload : Payload),
        whole.delivers history ⟨filter, watch, payload⟩ =
          p.delivers history₁ ⟨filter, watch₁, payload⟩ >>= fun between =>
            (q.delivers history₂ ⟨filter, watch₂, between⟩).mapError (.shift first.length)) ∧
      ∀ (history : List ProcessCall) (call : ProcessCall) (e : PipelineError),
        q.delivers history call = .error e →
          ∃ i, i < q.nodes.length ∧ e.node? = some i ∧
            (e.shift first.length).node? = some (first.length + i) := by
  obtain ⟨nodes, hbuild, rfl⟩ := new_eq_ok_iff.mp hwhole
  obtain ⟨before, after, hbefore, hafter, rfl⟩ := Topology.build_append hbuild
  refine ⟨.ofNodes before, .ofNodes after, new_eq_ok_iff.mpr ⟨before, hbefore, rfl⟩,
    new_eq_ok_iff.mpr ⟨after, hafter, rfl⟩, ?_, ?_⟩
  · intro filter watch watch₁ watch₂ history history₁ history₂ payload
    simp only [delivers_eq, ofNodes, List.foldlM_append, List.foldlM_map, Node.transform_shift,
      Outcome.foldlM_mapError]
  · intro history call e h
    rw [delivers, process_processAll] at h
    obtain ⟨i, hi, hnode⟩ := Run.node?_of_error (fun _ _ => Topology.build_index hafter) h
    exact ⟨i, hi, hnode, by rw [PipelineError.node?_shift, hnode]; rfl⟩

/-- A text fails at the second node of the second part, the third one of the whole. -/
theorem runs_compose_of_mismatch :
    ∃ whole, Pipeline.new .builtin
        ([{ processor := "data_type_probe" }] ++
          [{ processor := "data_type_probe" }, { processor := "float_multiply" }]) = .ok whole ∧
      whole.delivers [] ⟨.all, .stopped, { data := .text "a" }⟩ =
        .error (.typeMismatch 2 "float_multiply" .float .text) := by
  obtain ⟨first, hfirst, hbetween⟩ : ∃ p,
      Pipeline.new .builtin [{ processor := "data_type_probe" }] = .ok p ∧
        p.delivers [] ⟨.all, .stopped, { data := .text "a" }⟩ = .ok { data := .text "a" } :=
    ⟨_, rfl, rfl⟩
  obtain ⟨second, hsecond, herror⟩ : ∃ q, Pipeline.new .builtin
      [{ processor := "data_type_probe" }, { processor := "float_multiply" }] = .ok q ∧
        q.delivers [] ⟨.all, .stopped, { data := .text "a" }⟩ =
          .error (.typeMismatch 1 "float_multiply" .float .text) := ⟨_, rfl, rfl⟩
  obtain ⟨whole, hwhole⟩ : ∃ whole, Pipeline.new .builtin
      ([{ processor := "data_type_probe" }] ++
        [{ processor := "data_type_probe" }, { processor := "float_multiply" }]) = .ok whole :=
    ⟨_, rfl⟩
  obtain ⟨p, q, hp, hq, hcompose, -⟩ := runs_compose hwhole
  cases hp.symm.trans hfirst
  cases hq.symm.trans hsecond
  refine ⟨whole, hwhole, ?_⟩
  rw [hcompose .all .stopped .stopped .stopped [] [] [] { data := .text "a" }, hbetween]
  exact congrArg (Outcome.mapError (PipelineError.shift 1)) herror

end Pipeline
end Dataflow
