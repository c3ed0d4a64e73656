/-
Nodes with reliable processors.

Such a node needs the context keys that it requires and no others, touches the keys that it
declares, and never crashes.  `Node.apply_meets` says so of one call.  Over a run,
`Linked.touches_eq` gives the touches of the completed nodes from their declarations
alone; only what a payload source writes is not declared, and `Linked.last_touch` is what
remains of the equation if there are payload sources.
-/
import Dataflow.Proofs.Pipeline.Declared
import Dataflow.Proofs.Pipeline.Provenance
import Dataflow.Proofs.Pipeline.Resolution
import Dataflow.Proofs.Processor.Builtin

namespace Dataflow

/-- The error reports an argument or a context key that is not there, found by a node or by its
processor. -/
def PipelineError.isMissing : PipelineError → Bool
  | missingParameter .. => true
  | processor _ _ e => e.isMissing
  | _ => false

theorem Answer.Meets.mono {α : Type} {absent absent' : Prop} {P : α → Prop} {x : Answer α}
    (h : Meets absent P x) (habsent : absent → absent') : Meets absent' P x := by
  cases x with
  | ok a => exact h
  | error e => exact fun he => habsent (h he)
  | crash m => exact h

/-! ## Processors that do not crash -/

/-- No call of the processor crashes. -/
def Processor.Steady : Processor → Prop
  | operation p => ∀ data params m, p.process data params ≠ .crash m
  | probe p => ∀ data params m, p.probe data params ≠ .crash m
  | context p => ∀ params context m, (Gate.run (p.edit params) (p.gate context)).1 ≠ .crash m
  | source p => ∀ params m, p.produce params ≠ .crash m
  | sink p => ∀ filter data params m, p.consume filter data params ≠ .crash m
  | payloadSource p => ∀ params m, p.produce params ≠ .crash m
  | payloadSink p => ∀ filter payload params m, p.consume filter payload params ≠ .crash m

theorem ContextProcessor.Dutiful.steady {p : ContextProcessor} (h : p.Dutiful) :
    (Processor.context p).Steady := by
  intro params context m hcrash
  by_cases hserved : p.Served context
  · cases (h.completes params context hserved).1.symm.trans hcrash
  · obtain ⟨key, herror⟩ := h.refuses params context hserved
    cases herror.symm.trans hcrash

theorem Processor.Reliable.steady {p : Processor} (h : p.Reliable) : p.Steady := by
  cases p with
  | operation p => exact fun data params => (h data params).ne_crash
  | probe p => exact fun data params => (h data params).ne_crash
  | context p => exact ContextProcessor.Dutiful.steady h
  | source p => exact fun params => (h params).ne_crash
  | sink p => exact fun filter data params => (h filter data params).ne_crash
  | payloadSource p => exact fun params => (h params).ne_crash
  | payloadSink p => exact fun filter payload params => (h filter payload params).ne_crash

theorem Outcome.bind_ok_ne_crash {ε α β : Type} {x : Outcome ε α} {f : α → β}
    (hx : ∀ m, x ≠ .crash m) (m : Option String) : (x >>= fun a => .ok (f a)) ≠ .crash m := by
  intro h
  rcases bind_eq_crash_iff.mp h with h | ⟨a, -, h⟩
  · exact hx m h
  · cases h

/-! ## One node -/

namespace Node

variable {node : Node} {filter : LogFilter} {params : Parameters} {payload : Payload}
  {origins : KeyOrigins}

/-- The node is called without something that it needs. -/
def Unserved (node : Node) (params : Parameters) (context : Context) : Prop :=
  params.Lack node.processor.parameters ∨
    ∃ key ∈ node.processor.requiredKeys, context.contains key = false

/-- What is known of a call that completed. -/
structure Fulfilled (node : Node) (params : Parameters) (payload : Payload) : Prop where
  served : ∀ key ∈ node.processor.requiredKeys, payload.context.contains key = true
  touches : node.role ≠ .payloadSource → node.touches params payload = node.declared

theorem fulfilled_of_kind (h : node.processor.kind ≠ .contextProcessor) :
    node.Fulfilled params payload where
  served key hkey := by
    cases hp : node.processor with
    | context p => simp [hp, Processor.kind] at h
    | _ => simp [hp, Processor.requiredKeys] at hkey
  touches hrole := by
    unfold touches declared suppressedKeys createdKeys
    cases hp : node.processor with
    | context p => simp [hp, Processor.kind] at h
    | payloadSource p => simp [role, hp] at hrole
    | _ => simp [Processor.suppressedKeys]

theorem fulfilled_of_dutiful {p : ContextProcessor} (hp : node.processor = .context p)
    (hserved : p.Served payload.context)
    (htouches : ∀ i, (p.edit params).touches i (p.gate payload.context) = p.declared i) :
    node.Fulfilled params payload where
  served key hkey := by
    rw [hp] at hkey
    exact hserved key hkey
  touches _ := by
    unfold touches declared suppressedKeys createdKeys
    rw [hp]
    exact htouches node.index

/-- Every call of a reliable processor by a node keeps its promise, and completes only if the
processor has the keys that it requires. -/
theorem apply_meets (hnode : node.processor.Reliable) (filter : LogFilter) (params : Parameters)
    (payload : Payload) (origins : KeyOrigins) :
    Answer.Meets (node.Unserved params payload.context) (fun _ => node.Fulfilled params payload)
      (node.apply filter params payload origins) := by
  unfold apply Unserved
  cases hp : node.processor with
  | operation p =>
    rw [hp] at hnode
    exact Answer.meets_bind ((hnode payload.data params).mono .inl) fun _ _ =>
      fulfilled_of_kind (by simp [hp, Processor.kind])
  | probe p =>
    rw [hp] at hnode
    exact Answer.meets_bind ((hnode payload.data params).mono .inl) fun _ _ =>
      fulfilled_of_kind (by simp [hp, Processor.kind])
  | context p =>
    have hdutiful : p.Dutiful := by
      rw [hp] at hnode
      exact hnode
    show Answer.Meets _ _ ((Gate.run (p.edit params) (p.gate payload.context)).1 >>= _)
    by_cases hserved : p.Served payload.context
    · obtain ⟨hok, htouches⟩ := hdutiful.completes params payload.context hserved
      rw [hok]
      exact fulfilled_of_dutiful hp hserved htouches
    · obtain ⟨key, herror⟩ := hdutiful.refuses params payload.context hserved
      rw [herror]
      refine fun _ => .inr ?_
      simpa [ContextProcessor.Served, Processor.requiredKeys] using hserved
  | source p =>
    rw [hp] at hnode
    exact Answer.meets_bind ((hnode params).mono .inl) fun _ _ =>
      fulfilled_of_kind (by simp [hp, Processor.kind])
  | sink p =>
    rw [hp] at hnode
    exact Answer.meets_bind ((hnode filter payload.data params).mono .inl) fun _ _ =>
      fulfilled_of_kind (by simp [hp, Processor.kind])
  | payloadSource p =>
    rw [hp] at hnode
    exact Answer.meets_bind ((hnode params).mono .inl) fun _ _ =>
      fulfilled_of_kind (by simp [hp, Processor.kind])
  | payloadSink p =>
    rw [hp] at hnode
    exact Answer.meets_bind ((hnode filter payload params).mono .inl) fun _ _ =>
      fulfilled_of_kind (by simp [hp, Processor.kind])

/-- A payload source only writes, and declares nothing. -/
theorem touches_of_payloadSource (h : node.role = .payloadSource) (params : Parameters)
    (payload : Payload) :
    node.declared = [] ∧ ∀ touch ∈ node.touches params payload, touch.kind = .write := by
  unfold role at h
  unfold declared suppressedKeys createdKeys touches
  cases hp : node.processor with
  | payloadSource p =>
    refine ⟨rfl, fun touch htouch => ?_⟩
    dsimp only at htouch
    split at htouch
    · obtain ⟨key, -, rfl⟩ := List.mem_map.mp htouch
      rfl
    · cases htouch
  | probe p =>
    simp only [hp] at h
    split at h <;> cases h
  | _ => simp [hp] at h

theorem apply_ne_crash (h : node.processor.Steady) (m : Option String) :
    node.apply filter params payload origins ≠ .crash m := by
  unfold apply
  cases hp : node.processor with
  | operation p =>
    rw [hp] at h
    exact Outcome.bind_ok_ne_crash (h payload.data params) m
  | probe p =>
    rw [hp] at h
    exact Outcome.bind_ok_ne_crash (h payload.data params) m
  | context p =>
    rw [hp] at h
    exact Outcome.bind_ok_ne_crash (h params payload.context) m
  | source p =>
    rw [hp] at h
    exact Outcome.bind_ok_ne_crash (h params) m
  | sink p =>
    rw [hp] at h
    exact Outcome.bind_ok_ne_crash (h filter payload.data params) m
  | payloadSource p =>
    rw [hp] at h
    exact Outcome.bind_ok_ne_crash (h params) m
  | payloadSink p =>
    rw [hp] at h
    exact Outcome.bind_ok_ne_crash (h filter payload params) m

theorem execute_ne_crash (h : node.processor.Steady) (m : Option String) :
    node.execute filter payload origins ≠ .crash m := by
  intro hcrash
  obtain ⟨params, happly⟩ := execute_eq_crash hcrash
  exact apply_ne_crash h m happly

/-- A node that completes had every key that it requires. -/
theorem contains_of_execute (hnode : node.processor.Reliable) {outcome : NodeOutcome}
    (h : node.execute filter payload origins = .ok outcome) :
    ∀ key ∈ node.requiredContextKeys, payload.context.contains key = true := by
  obtain ⟨-, params, hresolve, happly⟩ := execute_eq_ok_iff.mp h
  have hfulfilled := (apply_meets hnode filter params payload origins).ok happly
  intro key hkey
  rcases mem_requiredContextKeys.mp hkey with ⟨spec, hspec, hrequired, hconfigured, rfl⟩ | hkey
  · exact context_of_resolve hresolve hspec hrequired hconfigured
  · exact hfulfilled.served key hkey

/-- A node that has every key that it requires does not report anything missing. -/
theorem not_missing_of_execute (hnode : node.processor.Reliable)
    (hready : ∀ key ∈ node.requiredContextKeys, payload.context.contains key = true)
    {e : PipelineError} (h : node.execute filter payload origins = .error e) :
    e.isMissing = false := by
  rcases execute_eq_error h with
    hinput | ⟨-, hresolve | ⟨params, sources, cause, hresolve, happly, rfl⟩⟩
  · obtain ⟨-, -, rfl⟩ := checkInput_eq_error_iff.mp hinput
    rfl
  · obtain ⟨key, hkey, hnone, -⟩ := resolve_eq_error hresolve
    rw [hready key hkey] at hnone
    cases hnone
  · refine (apply_meets hnode filter params payload origins).not_missing ?_ happly
    rintro (⟨spec, hspec, hnone⟩ | ⟨key, hkey, hnone⟩)
    · rw [contains_of_resolve hresolve hspec] at hnone
      cases hnone
    · rw [hready key (mem_requiredContextKeys.mpr (.inr hkey))] at hnone
      cases hnone

theorem role_ne_of_map {nodes : List Node} {roles : List NodeRole} {r : NodeRole}
    (h : nodes.map role = roles) (hr : r ∉ roles) : ∀ node ∈ nodes, node.role ≠ r := by
  rintro node hnode rfl
  exact hr (h ▸ List.mem_map_of_mem hnode)

end Node

theorem Passage.touches_eq {filter : LogFilter} {p : Passage} (hnode : p.node.processor.Reliable)
    (h : p.node.execute filter p.before.payload p.before.origins = .ok p.outcome)
    (hrole : p.node.role ≠ .payloadSource) : p.touches = p.node.declared :=
  ((Node.apply_meets hnode filter p.params _ _).ok (p.apply_of_execute h)).touches hrole

/-! ## A run -/

section Run

variable {filter : LogFilter} {nodes : List Node} {start : Checkpoint} {passed : List Passage}

/-- Without payload sources the completed nodes touch exactly what they declare. -/
theorem Linked.touches_eq (hlinked : Linked filter nodes start passed)
    (hreliable : ∀ node ∈ nodes, node.processor.Reliable)
    (hrole : ∀ node ∈ nodes, node.role ≠ .payloadSource) :
    ∀ t, t ≤ passed.length → touchesOf (passed.take t) = declaredBy (nodes.take t) := by
  refine passage_induction rfl fun t p hp ih => ?_
  have hmem : p.node ∈ nodes := List.mem_of_getElem? (hlinked.node t p hp)
  rw [touchesOf_take_succ hp, hlinked.take_succ hp, declaredBy_concat, ih,
    p.touches_eq (hreliable _ hmem) (hlinked.execute t p hp) (hrole _ hmem)]

/-- The last touch of a key is the declared one, or a write. -/
theorem Linked.last_touch (hlinked : Linked filter nodes start passed)
    (hreliable : ∀ node ∈ nodes, node.processor.Reliable) (key : String) :
    ∀ t, t ≤ passed.length →
      Touch.last? key (touchesOf (passed.take t)) =
          Touch.last? key (declaredBy (nodes.take t)) ∨
        ∃ i, Touch.last? key (touchesOf (passed.take t)) = some ⟨i, key, .write⟩ := by
  refine passage_induction (.inl rfl) fun t p hp ih => ?_
  have hmem : p.node ∈ nodes := List.mem_of_getElem? (hlinked.node t p hp)
  rw [touchesOf_take_succ hp, hlinked.take_succ hp, declaredBy_concat, Touch.last?_append,
    Touch.last?_append]
  by_cases hrole : p.node.role = .payloadSource
  · obtain ⟨hdeclared, hwrites⟩ := Node.touches_of_payloadSource hrole p.params p.before.payload
    rw [hdeclared]
    cases htouch : Touch.last? key p.touches with
    | none => exact ih
    | some touch =>
      obtain ⟨i, k, kind⟩ := touch
      have hk : k = key := Touch.key_of_last? htouch
      have hkind : kind = .write := hwrites _ (Touch.mem_of_last? htouch)
      subst hk hkind
      exact .inr ⟨i, rfl⟩
  · rw [p.touches_eq (hreliable _ hmem) (hlinked.execute t p hp) hrole]
    cases Touch.last? key p.node.declared with
    | none => exact ih
    | some touch => exact .inl rfl

theorem Run.ofNodes_ne_crash (filter : LogFilter) (watch : Stopwatch) (start : Checkpoint)
    (hsteady : ∀ node ∈ nodes, node.processor.Steady) (m : Option String) :
    (ofNodes filter watch nodes start.payload start.origins).result ≠ .crash m :=
  ofNodes_ne_crash_of_execute (fun node hnode _ => Node.execute_ne_crash (hsteady node hnode))
    watch start m

/-- Every call keeps its records as the latest run, whatever was run before. -/
theorem Pipeline.lastRun_of_steady {p : Pipeline}
    (hsteady : ∀ node ∈ p.nodes, node.processor.Steady) (history : List ProcessCall)
    (filter : LogFilter) (watch : Stopwatch) (payload : Payload) :
    ((p.processAll history).process filter watch payload).2.lastRun =
      (passages filter p.nodes (.start payload)).map (·.record watch) := by
  have hrun := p.process_processAll history filter watch payload
  rw [Pipeline.lastRun_of_ne_crash fun m => ?_, hrun]
  · exact (Run.ofNodes_eq filter watch p.nodes (.start payload)).1
  · rw [hrun]
    exact Run.ofNodes_ne_crash filter watch (.start payload) hsteady m

end Run

/-! ## Pipelines over the built-in registry -/

/-- Nodes with reliable processors that know their positions and passed the deletion guard. -/
structure Vetted (nodes : List Node) : Prop where
  reliable : ∀ node ∈ nodes, node.processor.Reliable
  index : ∀ (t : Nat) (node : Node), nodes[t]? = some node → node.index = t
  guard : Topology.checkDeletedKeys nodes = .ok ()

theorem Vetted.steady {nodes : List Node} (h : Vetted nodes) :
    ∀ node ∈ nodes, node.processor.Steady :=
  fun node hnode => (h.reliable node hnode).steady

theorem Pipeline.vetted_of_builtin {configs : List NodeConfig} {p : Pipeline}
    (hp : Pipeline.new .builtin configs = .ok p) : Vetted p.nodes where
  reliable node hnode :=
    have hbind := (Topology.build_eq_ok_iff.mp (Pipeline.nodes_of_new hp)).1
    Registry.reliable_of_builtin (Topology.resolve_of_mem_bindFrom hbind node hnode)
  index _ _ hnode := Topology.build_index (Pipeline.nodes_of_new hp) hnode
  guard := (Topology.build_eq_ok_iff.mp (Pipeline.nodes_of_new hp)).2.2

end Dataflow
