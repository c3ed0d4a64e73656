/-
The keys that the inspection requires initially are exactly those that a run needs.

A run that is given all of them finds every required key at every node: what an earlier
node declares to create is there, what the caller gave is there unless a node deletes it,
and the deletion guard refuses the lists in which a deleted key is required later
(`Linked.ready`).  Without payload sources no other key ever appears, so that a run that
lacks one of them fails at the node that requires it (`Linked.unready`).
-/
import Dataflow.Proofs.Pipeline.Reliable

namespace Dataflow

section Run

variable {filter : LogFilter} {nodes : List Node} {payload : Payload} {passed : List Passage}
  {t : Nat} {node : Node} {key : String}

theorem Linked.ready (hlinked : Linked filter nodes (.start payload) passed)
    (hnodes : Vetted nodes)
    (hsupplied : ∀ key, (Inspection.ofNodes nodes).requiredInitialKeys.contains key = true →
      payload.context.contains key = true)
    (ht : t ≤ passed.length) (hnode : nodes[t]? = some node)
    (hkey : key ∈ node.requiredContextKeys) :
    (checkpointAt (.start payload) passed t).context.contains key = true := by
  have hdeclared := hlinked.last_touch hnodes.reliable key t ht
  rcases hlinked.origin_cases hnodes.index ht key with
    ⟨hfree, hcontext, -⟩ | ⟨i, -, -, -, hsome, -⟩ | ⟨i, htouch, -, -⟩
  · rw [Touch.last?_eq_none_iff.mpr hfree] at hdeclared
    rcases hdeclared with hnone | ⟨i, hwrite⟩
    · have hproducers : (Inspection.producersOf (nodes.take t)).contains key = false := by
        rw [KeyMap.contains_eq_false_iff, Inspection.get?_producersOf, ← hnone]
        rfl
      have hrequired : (Inspection.ofNodes nodes).requiredInitialKeys.contains key = true :=
        (Inspection.contains_requiredInitialKeys nodes .empty .empty key).mpr
          (.inr ⟨t, node, hnode, hkey, hproducers⟩)
      rw [KeyMap.contains, hcontext]
      exact hsupplied key hrequired
    · cases hwrite
  · exact hsome
  · rw [htouch] at hdeclared
    rcases hdeclared with hdeletion | ⟨j, hwrite⟩
    · -- The guard knows of every deletion, because deletions are declared.
      have hallowed := Topology.checkDeletedKeys_eq_ok_iff.mp hnodes.guard t node hnode key hkey
      rw [← hdeletion] at hallowed
      cases hallowed
    · cases hwrite

theorem Linked.unready (hlinked : Linked filter nodes (.start payload) passed)
    (hnodes : Vetted nodes) (hrole : ∀ node ∈ nodes, node.role ≠ .payloadSource)
    (ht : t ≤ passed.length)
    (hunproduced : (Inspection.producersOf (nodes.take t)).contains key = false)
    (hlacking : payload.context.contains key = false) :
    (checkpointAt (.start payload) passed t).context.contains key = false := by
  rw [KeyMap.contains_eq_false_iff] at hunproduced hlacking ⊢
  rcases hlinked.origin_cases hnodes.index ht key with
    ⟨-, hcontext, -⟩ | ⟨i, -, hwritten, -, -, -⟩ | ⟨i, -, hcontext, -⟩
  · exact hcontext.trans hlacking
  · rw [hlinked.touches_eq hnodes.reliable hrole t ht, Touch.writtenLast_iff] at hwritten
    rw [Inspection.get?_producersOf, hwritten] at hunproduced
    cases hunproduced
  · exact hcontext

end Run

namespace Run

variable {nodes : List Node} {payload : Payload}

/-- A run that is given every key it requires reports nothing missing. -/
theorem not_missing_of_supplied (filter : LogFilter) (watch : Stopwatch) (hnodes : Vetted nodes)
    (hsupplied : ∀ key, (Inspection.ofNodes nodes).requiredInitialKeys.contains key = true →
      payload.context.contains key = true)
    {e : PipelineError} (h : (of filter watch nodes payload).result = .error e) :
    e.isMissing = false := by
  have hlinked := passages_linked filter nodes (.start payload)
  obtain ⟨node, hnode, hexecute⟩ := of_eq_error h
  refine Node.not_missing_of_execute (hnodes.reliable node (List.mem_of_getElem? hnode)) ?_ hexecute
  intro key hkey
  have hready := hlinked.ready hnodes hsupplied (Nat.le_refl _) hnode hkey
  rw [checkpointAt_length] at hready
  exact hready

/-- A run without payload sources that lacks a key it requires fails. -/
theorem error_of_lacking (filter : LogFilter) (watch : Stopwatch) (hnodes : Vetted nodes)
    (hrole : ∀ node ∈ nodes, node.role ≠ .payloadSource) {key : String}
    (hrequired : (Inspection.ofNodes nodes).requiredInitialKeys.contains key = true)
    (hlacking : payload.context.contains key = false) :
    ∃ e, (of filter watch nodes payload).result = .error e := by
  have hlinked := passages_linked filter nodes (.start payload)
  rcases ofNodes_ending filter watch nodes (.start payload) with
    ⟨hlength, -⟩ | ⟨node, hnode, ⟨e, -, herror⟩ | ⟨m, hexecute, -⟩⟩
  · -- Every node completed, also the one that requires the key.
    obtain hempty | ⟨t, node, hnode, hkey, hunproduced⟩ :=
      (Inspection.contains_requiredInitialKeys nodes .empty .empty key).mp hrequired
    · cases hempty
    · have ht : t < (passages filter nodes (.start payload)).length := by
        rw [hlength]
        exact (List.getElem?_eq_some_iff.mp hnode).1
      have hpassage := List.getElem?_eq_getElem ht
      have hsame := (hlinked.node t _ hpassage).symm.trans hnode
      have hcontains := Node.contains_of_execute
        (hnodes.reliable _ (List.mem_of_getElem? (hlinked.node t _ hpassage)))
        (hlinked.execute t _ hpassage) key (by rw [Option.some.inj hsame]; exact hkey)
      rw [hlinked.before t _ hpassage] at hcontains
      have habsent := hlinked.unready hnodes hrole (Nat.le_of_lt ht) hunproduced hlacking
      cases habsent.symm.trans hcontains
  · exact ⟨e, herror⟩
  · exact absurd hexecute
      (Node.execute_ne_crash (hnodes.steady node (List.mem_of_getElem? hnode)) m)

end Run

/-- The required initial keys are exact, for every pipeline over the built-in registry in any
state: a run that is given all of them reports nothing missing, and if there is no payload source,
a run that lacks one of them fails. -/
theorem Pipeline.required_keys_are_exact {configs : List NodeConfig} {p : Pipeline}
    (hp : Pipeline.new .builtin configs = .ok p) (history : List ProcessCall)
    (call : ProcessCall) :
    let q := p.processAll history
    let required := q.inspect.requiredInitialKeys
    let context := call.payload.context
    let result := (q.process call.filter call.watch call.payload).1.result
    ((∀ key, required.contains key = true → context.contains key = true) →
      ∀ e, result = .error e → e.isMissing = false) ∧
    ((∀ node ∈ p.nodes, node.role ≠ .payloadSource) →
      (∃ key, required.contains key = true ∧ context.contains key = false) →
      ∃ e, result = .error e) := by
  intro q required context result
  have hnodes : Vetted p.nodes := Pipeline.vetted_of_builtin hp
  have hrequired : required = (Inspection.ofNodes p.nodes).requiredInitialKeys :=
    congrArg (fun nodes => (Inspection.ofNodes nodes).requiredInitialKeys)
      (p.processAll_nodes history)
  have hresult : result = (Run.of call.filter call.watch p.nodes call.payload).result :=
    congrArg Run.result (p.process_processAll history call.filter call.watch call.payload)
  rw [hrequired, hresult]
  constructor
  · exact fun hsupplied e he => Run.not_missing_of_supplied _ _ hnodes hsupplied he
  · rintro hrole ⟨key, hkey, hlacking⟩
    exact Run.error_of_lacking _ _ hnodes hrole hkey hlacking

/-- A factor that is renamed behind its use is required, and nothing else is.  As text it is no
factor, but it is not missing; under the name that it gets later it is of no use. -/
theorem Pipeline.required_keys_are_exact_of_factor :
    let data : TypedData := ⟨.float (Float.ofBits 0x3FF8000000000000), by decide⟩
    let result (p : Pipeline) (key : String) (value : Json) :=
      (p.process .all .stopped { data, context := KeyMap.empty.insert key value }).1.result
    ∃ p, Pipeline.new .builtin
        [{ processor := "float_multiply" }, { processor := "rename:factor:gain" }] = .ok p ∧
      p.inspect.requiredInitialKeys = KeyMap.empty.insert "factor" () ∧
      (∃ e, result p "factor" (.str "two") = .error (.processor 0 "float_multiply" e) ∧
        e.isMissing = false) ∧
      ∃ e, result p "gain" (.int 2) = .error e ∧ e.isMissing = true := by
  intro data result
  obtain ⟨p, hp, hroles, hrequired, ⟨e, htext⟩, hgain⟩ : ∃ p, Pipeline.new .builtin
      [{ processor := "float_multiply" }, { processor := "rename:factor:gain" }] = .ok p ∧
      p.nodes.map Node.role = [.operation, .contextMutator] ∧
      p.inspect.requiredInitialKeys = KeyMap.empty.insert "factor" () ∧
      (∃ e, result p "factor" (.str "two") = .error (.processor 0 "float_multiply" e)) ∧
      result p "gain" (.int 2) = .error (.missingParameter 0 "float_multiply" "factor") :=
    ⟨_, rfl, rfl, rfl, ⟨_, rfl⟩, rfl⟩
  refine ⟨p, hp, hrequired, ⟨e, htext, ?_⟩, ?_⟩
  · refine (Pipeline.required_keys_are_exact hp [] ⟨.all, .stopped, _⟩).1 (fun key hkey => ?_) _
      htext
    have hkey : (KeyMap.empty.insert "factor" ()).contains key = true := hrequired ▸ hkey
    by_cases h : "factor" = key
    · subst h
      rfl
    · rw [KeyMap.contains, KeyMap.get?_insert, if_neg h] at hkey
      cases hkey
  · have hfactor : p.inspect.requiredInitialKeys.contains "factor" = true := by
      rw [hrequired]
      rfl
    obtain ⟨e, he⟩ : ∃ e, result p "gain" (.int 2) = .error e :=
      (Pipeline.required_keys_are_exact hp [] ⟨.all, .stopped, _⟩).2
        (Node.role_ne_of_map hroles (by decide)) ⟨"factor", hfactor, rfl⟩
    refine ⟨e, he, ?_⟩
    rw [← Outcome.error.inj (hgain.symm.trans he)]
    rfl

end Dataflow
