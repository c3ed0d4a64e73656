/-
The type check at construction is sound.

The check remembers the most recent node that produces data and compares its output type
with the input type of every node that reads data.  At run time such a node looks at the data
itself.  Behind any number of nodes the data is what `Flow` says: of the output type of the most
recent producer, and the caller's own data as long as there is none.  A node behind a producer
therefore never finds data of a wrong type, if the processors declare definite output types
and keep to them.
-/
import Dataflow.Proofs.Pipeline.Provenance
import Dataflow.Proofs.Pipeline.Resolution
import Dataflow.Proofs.Processor.Builtin
import Mathlib.Data.List.Induction

namespace Dataflow

theorem DataType.accepts_of_compatibleWith {output input : DataType} (houtput : output ≠ .any)
    (h : output.compatibleWith input = true) : input.accepts output = true := by
  simp only [compatibleWith, Bool.or_eq_true, beq_iff_eq] at h
  rcases h with (h | h) | h
  · simp [accepts, h]
  · exact absurd h houtput
  · simp [accepts, h]

/-! ## Well-typed processors -/

/-- The processor declares a definite output type, and every successful call gives data of it. -/
def Processor.WellTyped : Processor → Prop
  | operation p => p.output ≠ .any ∧
    ∀ data params result, p.process data params = .ok result → result.type = p.output
  | source p => p.output ≠ .any ∧
    ∀ params result, p.produce params = .ok result → result.type = p.output
  | payloadSource p => p.output ≠ .any ∧
    ∀ params result, p.produce params = .ok result → result.data.type = p.output
  | _ => True

def Registry.WellTyped (registry : Registry) : Prop :=
  ∀ name p, registry.get? name = some p → p.WellTyped

theorem Processor.Reliable.wellTyped {p : Processor} (h : p.Reliable)
    (houtput : p.producesData = true → p.outputType ≠ .any) : p.WellTyped := by
  cases p with
  | operation p => exact ⟨houtput rfl, fun data params result => (h data params).ok⟩
  | source p => exact ⟨houtput rfl, fun params result => (h params).ok⟩
  | payloadSource p => exact ⟨houtput rfl, fun params result => (h params).ok⟩
  | _ => trivial

theorem Registry.builtin_wellTyped : Registry.builtin.WellTyped := by
  intro name p h
  have hmem : p ∈ Processor.builtins := mem_builtins_of_get? h
  have houtput : ∀ q ∈ Processor.builtins, q.producesData = true → q.outputType ≠ .any := by decide
  exact (Processor.reliable_of_mem_builtins hmem).wellTyped (houtput p hmem)

theorem Pipeline.wellTyped_of_new {registry : Registry} {configs : List NodeConfig} {p : Pipeline}
    (hregistry : registry.WellTyped) (hp : Pipeline.new registry configs = .ok p) :
    ∀ node ∈ p.nodes, node.processor.WellTyped := by
  intro node hnode
  have hbind := (Topology.build_eq_ok_iff.mp (Pipeline.nodes_of_new hp)).1
  rcases Registry.resolve_cases (Topology.resolve_of_mem_bindFrom hbind node hnode) with h | h
  · obtain ⟨c, hc, -⟩ := Processor.dutiful_of_shorthand h
    rw [hc]
    trivial
  · exact hregistry _ _ h

/-! ## The check -/

namespace Topology

/-- The producer that the check remembers behind some nodes. -/
def lastProducer? (producer? : Option Node) (nodes : List Node) : Option Node :=
  nodes.foldl (fun producer? node => if node.producesData then some node else producer?) producer?

theorem lastProducer?_concat (producer? : Option Node) (nodes : List Node) (node : Node) :
    lastProducer? producer? (nodes ++ [node]) =
      if node.producesData then some node else lastProducer? producer? nodes := by
  simp [lastProducer?]

theorem lastProducer?_eq_none {nodes : List Node} (h : lastProducer? none nodes = none) :
    ∀ node ∈ nodes, node.producesData = false := by
  induction nodes using List.reverseRecOn with
  | nil => exact nofun
  | append_singleton nodes node ih =>
    rw [lastProducer?_concat] at h
    split at h
    · cases h
    · rename_i hnode
      intro n hn
      rcases List.mem_append.mp hn with hn | hn
      · exact ih h n hn
      · rw [List.mem_singleton.mp hn]
        simpa using hnode

theorem checkPair_eq_ok_iff {producer node : Node} {u : Unit} :
    checkPair producer node = .ok u ↔
      producer.outputType.compatibleWith node.inputType = true := by
  unfold checkPair
  split <;> simp [*]

theorem checkAdjacency_cons {producer? : Option Node} {node : Node} {rest : List Node} :
    checkAdjacency producer? (node :: rest) = .ok () ↔
      (node.readsData = true → ∀ producer, producer? = some producer →
        producer.outputType.compatibleWith node.inputType = true) ∧
      checkAdjacency (if node.producesData then some node else producer?) rest = .ok () := by
  cases producer? with
  | none =>
    rw [checkAdjacency]
    split <;> simp [Except.bind_eq_ok_iff]
  | some producer =>
    rw [checkAdjacency]
    split <;> simp [Except.bind_eq_ok_iff, checkPair_eq_ok_iff, *]

/-- The check lets a list pass if every node that reads data may stand behind the most recent
producer in front of it. -/
theorem checkAdjacency_eq_ok_iff {producer? : Option Node} {nodes : List Node} :
    checkAdjacency producer? nodes = .ok () ↔
      ∀ (t : Nat) (node : Node), nodes[t]? = some node → node.readsData = true →
        ∀ producer, lastProducer? producer? (nodes.take t) = some producer →
          producer.outputType.compatibleWith node.inputType = true := by
  induction nodes generalizing producer? with
  | nil => simp [checkAdjacency]
  | cons node rest ih =>
    rw [checkAdjacency_cons, ih]
    constructor
    · rintro ⟨hnode, hrest⟩ t n hn
      cases t with
      | zero =>
        cases hn
        exact hnode
      | succ t => exact hrest t n hn
    · exact fun h => ⟨h 0 node rfl, fun t n hn => h (t + 1) n hn⟩

end Topology

/-! ## The data -/

namespace Node

variable {node : Node} {filter : LogFilter} {params : Parameters} {payload : Payload}
  {origins : KeyOrigins} {effect : Effect}

/-- A node that does not produce data passes it on. -/
theorem data_of_apply (h : node.apply filter params payload origins = .ok effect)
    (hproduces : node.producesData = false) : effect.payload.data = payload.data := by
  cases applied h with
  | probe hp hcall =>
    unfold Effect.ofProbe
    split <;> rfl
  | context hp hcall => rfl
  | sink hp hcall => rfl
  | payloadSink hp hcall => rfl
  | operation hp | source hp | payloadSource hp =>
    simp [producesData, Processor.producesData, Processor.kind, hp,
      ProcessorKind.producesData] at hproduces

/-- A well-typed node that produces data produces it of its output type. -/
theorem type_of_apply (hnode : node.processor.WellTyped)
    (h : node.apply filter params payload origins = .ok effect)
    (hproduces : node.producesData = true) :
    node.outputType ≠ .any ∧ effect.payload.data.type = node.outputType := by
  unfold outputType
  cases applied h with
  | operation hp hcall =>
    rw [hp] at hnode ⊢
    exact ⟨hnode.1, hnode.2 _ _ _ hcall⟩
  | source hp hcall =>
    rw [hp] at hnode ⊢
    exact ⟨hnode.1, hnode.2 _ _ hcall⟩
  | @payloadSource p produced hp hcall =>
    rw [hp] at hnode ⊢
    exact ⟨hnode.1, hnode.2 _ produced hcall⟩
  | probe hp | context hp | sink hp | payloadSink hp =>
    simp [producesData, Processor.producesData, Processor.kind, hp,
      ProcessorKind.producesData] at hproduces

theorem mismatch_of_execute {n : Nat} {name : String} {expected actual : DataType}
    (h : node.execute filter payload origins = .error (.typeMismatch n name expected actual)) :
    node.readsData = true ∧ node.inputType.accepts payload.data.type = false ∧
      n = node.index ∧ name = node.name ∧ expected = node.inputType ∧
      actual = payload.data.type := by
  rcases execute_eq_error h with hinput | ⟨-, hresolve | ⟨params, sources, cause, -, -, hcause⟩⟩
  · obtain ⟨hreads, hrefused, heq⟩ := checkInput_eq_error_iff.mp hinput
    cases heq
    exact ⟨hreads, hrefused, rfl, rfl, rfl, rfl⟩
  · obtain ⟨key, -, -, hmissing⟩ := resolve_eq_error hresolve
    cases hmissing
  · cases hcause

end Node

/-- The data against the producer that the check remembers: it is of the producer's output type, a
definite one, or it still is the caller's. -/
def Flow (initial : TypedData) (producer? : Option Node) (data : TypedData) : Prop :=
  match producer? with
  | some producer => producer.outputType ≠ .any ∧ data.type = producer.outputType
  | none => data = initial

theorem Flow.step {filter : LogFilter} {initial : TypedData} {producer? : Option Node}
    {p : Passage} (h : Flow initial producer? p.before.payload.data)
    (hnode : p.node.processor.WellTyped)
    (hexecute : p.node.execute filter p.before.payload p.before.origins = .ok p.outcome) :
    Flow initial (if p.node.producesData then some p.node else producer?)
      p.after.payload.data := by
  have happly := p.apply_of_execute hexecute
  cases hproduces : p.node.producesData with
  | true => exact Node.type_of_apply hnode happly hproduces
  | false =>
    have hdata : p.after.payload.data = p.before.payload.data :=
      Node.data_of_apply happly hproduces
    rw [hdata]
    exact h

section Run

variable {filter : LogFilter} {nodes : List Node} {payload : Payload} {passed : List Passage}

theorem Linked.flow (hlinked : Linked filter nodes (.start payload) passed)
    (hnodes : ∀ node ∈ nodes, node.processor.WellTyped) :
    ∀ t, t ≤ passed.length →
      Flow payload.data (Topology.lastProducer? none (nodes.take t))
        (checkpointAt (.start payload) passed t).payload.data := by
  refine passage_induction rfl fun t p hp ih => ?_
  rw [checkpointAt, ← hlinked.before t p hp] at ih
  rw [hlinked.take_succ hp, Topology.lastProducer?_concat, checkpointAt_succ hp]
  exact ih.step (hnodes _ (List.mem_of_getElem? (hlinked.node t p hp))) (hlinked.execute t p hp)

/-- A node that reads data and comes behind a producer finds data of a type that it accepts. -/
theorem Linked.accepts (hlinked : Linked filter nodes (.start payload) passed)
    (hnodes : ∀ node ∈ nodes, node.processor.WellTyped)
    (hcheck : Topology.checkAdjacency none nodes = .ok ()) {t : Nat} (ht : t ≤ passed.length)
    {node producer : Node} (hnode : nodes[t]? = some node) (hreads : node.readsData = true)
    (hproducer : Topology.lastProducer? none (nodes.take t) = some producer) :
    node.inputType.accepts (checkpointAt (.start payload) passed t).payload.data.type = true := by
  have hflow := hlinked.flow hnodes t ht
  rw [hproducer] at hflow
  obtain ⟨hdefinite, htype⟩ := hflow
  rw [htype]
  exact DataType.accepts_of_compatibleWith hdefinite
    (Topology.checkAdjacency_eq_ok_iff.mp hcheck t node hnode hreads producer hproducer)

/-- In nodes that passed the check, a mismatch is found in the data of the caller, by a node with no
producer in front of it. -/
theorem Run.mismatch_in_initial (watch : Stopwatch)
    (hnodes : ∀ node ∈ nodes, node.processor.WellTyped)
    (hcheck : Topology.checkAdjacency none nodes = .ok ())
    (hindex : ∀ (t : Nat) (node : Node), nodes[t]? = some node → node.index = t)
    {n : Nat} {name : String} {expected actual : DataType}
    (h : (of filter watch nodes payload).result = .error (.typeMismatch n name expected actual)) :
    let passed := passages filter nodes (.start payload)
    (∀ earlier ∈ nodes.take n, earlier.producesData = false) ∧
      passed.length = n ∧ (behind (.start payload) passed).payload.data = payload.data ∧
      actual = payload.data.type ∧ expected.accepts actual = false ∧
      ∃ node, nodes[n]? = some node ∧ node.readsData = true ∧ node.name = name ∧
        node.inputType = expected := by
  intro passed
  have hlinked : Linked filter nodes (.start payload) passed :=
    passages_linked filter nodes (.start payload)
  obtain ⟨node, hnode, hexecute⟩ := Run.of_eq_error h
  obtain ⟨hreads, hrefused, hn, rfl, rfl, rfl⟩ := Node.mismatch_of_execute hexecute
  have hlength : n = passed.length := hn.trans (hindex _ node hnode)
  -- A producer in front of the node would have left data that the node accepts.
  have hnone : Topology.lastProducer? none (nodes.take passed.length) = none := by
    match hproducer : Topology.lastProducer? none (nodes.take passed.length) with
    | none => rfl
    | some producer =>
      have haccepts := hlinked.accepts hnodes hcheck (Nat.le_refl _) hnode hreads hproducer
      rw [checkpointAt_length] at haccepts
      cases hrefused.symm.trans haccepts
  have hflow := hlinked.flow hnodes passed.length (Nat.le_refl _)
  rw [hnone, checkpointAt_length] at hflow
  subst hlength
  exact ⟨Topology.lastProducer?_eq_none hnone, rfl, hflow, congrArg TypedData.type hflow,
    hrefused, node, hnode, hreads, rfl, rfl⟩

end Run

/-- The type check is sound, over every registry of well-typed processors, the built-in one among
them: a type mismatch can only be found by a node with no producer in front of it, in the
data of the caller.  If the nodes that the caller's data reaches accept it, there is no mismatch. -/
theorem Pipeline.type_check_is_sound :
    Registry.builtin.WellTyped ∧
    ∀ (registry : Registry) (configs : List NodeConfig) (p : Pipeline), registry.WellTyped →
      Pipeline.new registry configs = .ok p → ∀ (history : List ProcessCall) (call : ProcessCall),
      let data := call.payload.data
      let result := ((p.processAll history).process call.filter call.watch call.payload).1.result
      let passed := passages call.filter p.nodes (.start call.payload)
      (∀ n name expected actual, result = .error (.typeMismatch n name expected actual) →
        (∀ earlier ∈ p.nodes.take n, earlier.producesData = false) ∧
        passed.length = n ∧ (behind (.start call.payload) passed).payload.data = data ∧
        actual = data.type ∧ expected.accepts actual = false ∧
        ∃ node, p.nodes[n]? = some node ∧ node.readsData = true ∧ node.name = name ∧
          node.inputType = expected) ∧
      ((∀ (t : Nat) (node : Node), p.nodes[t]? = some node → node.readsData = true →
          (∀ earlier ∈ p.nodes.take t, earlier.producesData = false) →
          node.inputType.accepts data.type = true) →
        ∀ n name expected actual, result ≠ .error (.typeMismatch n name expected actual)) := by
  refine ⟨Registry.builtin_wellTyped, fun registry configs p hregistry hp history call => ?_⟩
  intro data result passed
  have hnodes := Pipeline.wellTyped_of_new hregistry hp
  have hcheck := (Topology.build_eq_ok_iff.mp (Pipeline.nodes_of_new hp)).2.1
  have hindex : ∀ (t : Nat) (node : Node), p.nodes[t]? = some node → node.index = t :=
    fun _ _ => Topology.build_index (Pipeline.nodes_of_new hp)
  have hresult : result = (Run.of call.filter call.watch p.nodes call.payload).result :=
    congrArg Run.result (p.process_processAll history call.filter call.watch call.payload)
  rw [hresult]
  constructor
  · exact fun n name expected actual h => Run.mismatch_in_initial call.watch hnodes hcheck hindex h
  · intro haccepts n name expected actual h
    obtain ⟨hearlier, -, -, rfl, hrefused, node, hnode, hreads, -, rfl⟩ :=
      Run.mismatch_in_initial call.watch hnodes hcheck hindex h
    cases hrefused.symm.trans (haccepts n node hnode hreads hearlier)

/-- A mismatch behind a probe is found in the data of the caller, and there is none if the caller
hands in a text. -/
theorem Pipeline.type_check_is_sound_of_text :
    ∃ p, Pipeline.new .builtin
        [{ processor := "data_type_probe" }, { processor := "change_text_case" }] = .ok p ∧
      (p.process .all .stopped {}).1.result =
        .error (.typeMismatch 1 "change_text_case" .text .empty) ∧
      (∀ earlier ∈ p.nodes.take 1, earlier.producesData = false) ∧
      ∀ n name expected actual, (p.process .all .stopped { data := .text "a" }).1.result ≠
        .error (.typeMismatch n name expected actual) := by
  obtain ⟨p, hp, hmismatch, hinputs⟩ : ∃ p, Pipeline.new .builtin
        [{ processor := "data_type_probe" }, { processor := "change_text_case" }] = .ok p ∧
      (p.process .all .stopped {}).1.result =
        .error (.typeMismatch 1 "change_text_case" .text .empty) ∧
      p.nodes.map Node.inputType = [.any, .text] := ⟨_, rfl, rfl, rfl⟩
  obtain ⟨hbuiltin, hsound⟩ := Pipeline.type_check_is_sound
  refine ⟨p, hp, hmismatch, ?_, ?_⟩
  · exact ((hsound .builtin _ p hbuiltin hp [] ⟨.all, .stopped, {}⟩).1 1 _ _ _ hmismatch).1
  · refine (hsound .builtin _ p hbuiltin hp [] ⟨.all, .stopped, { data := .text "a" }⟩).2 ?_
    intro t node hnode _ _
    have hinput : node.inputType ∈ [DataType.any, .text] :=
      hinputs ▸ List.mem_map_of_mem (List.mem_of_getElem? hnode)
    rcases List.mem_pair.mp hinput with h | h
    · rw [h]
      rfl
    · rw [h]
      rfl

end Dataflow
