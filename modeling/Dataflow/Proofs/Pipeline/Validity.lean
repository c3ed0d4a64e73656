/-
No invalid data is ever handed on.

Validation happens inside the processors that make data, each for itself.  `Node.apply_invalid_iff`
is the step: a node that accepts its input reports a broken rule exactly if the raw value that it
computes breaks the rule.  Over a run, the data behind
every node is a raw value that was computed there and found valid, or the data from before; the
run ends at the first raw value that is not valid.  A number that a probe takes from such data is a
JSON number, and is the same float again wherever it arrives as an argument.
-/
import Dataflow.Proofs.Pipeline.Abort
import Dataflow.Proofs.Pipeline.Footprint
import Dataflow.Proofs.Processor.Computation

namespace Dataflow

theorem Outcome.bind_ok_eq_error_iff {ε α β : Type} {x : Outcome ε α} {f : α → β} {e : ε} :
    (x >>= fun a => .ok (f a)) = .error e ↔ x = .error e := by
  cases x <;> simp

/-! ## One node -/

namespace Producer

theorem producesData (k : Producer) : k.processor.producesData = true := by
  cases k <;> rfl

end Producer

namespace Node

variable {node : Node} {filter : LogFilter} {params : Parameters} {payload : Payload}
  {origins : KeyOrigins}

theorem accepts_of_operation {p : Operation} (hp : node.processor = .operation p)
    (hfits : node.Fits payload.data) : p.input.accepts payload.data.type = true := by
  have hreads : node.readsData = true := by rw [readsData, hp]; rfl
  have hinput := hfits hreads
  rwa [inputType, hp] at hinput

theorem not_computes_of_passing (h : node.producesData = false) (data raw : Data) :
    ¬ node.processor.Computes params data raw := by
  rintro ⟨k, hk, -⟩
  have hproduces := k.producesData
  rw [hk] at hproduces
  cases hproduces.symm.trans h

theorem unjudging_of_passing (hnode : node.processor.Validates) (h : node.producesData = false) :
    Answer.Unjudging (node.apply filter params payload origins) := by
  unfold apply
  cases hp : node.processor with
  | probe p =>
    rw [hp] at hnode
    exact (hnode payload.data params).bind fun _ _ => Answer.unjudging_ok _
  | context p =>
    rw [hp] at hnode
    exact Answer.Unjudging.bind (hnode params payload.context) fun _ _ => Answer.unjudging_ok _
  | sink p =>
    rw [hp] at hnode
    exact (hnode filter payload.data params).bind fun _ _ => Answer.unjudging_ok _
  | payloadSink p =>
    rw [hp] at hnode
    exact (hnode filter payload params).bind fun _ _ => Answer.unjudging_ok _
  | operation p | source p | payloadSource p =>
    simp [producesData, Processor.producesData, Processor.kind, hp,
      ProcessorKind.producesData] at h

/-- A node that accepts its input reports a broken rule exactly if the raw value that it computes
breaks the rule. -/
theorem apply_invalid_iff (hnode : node.processor.Validates) (hfits : node.Fits payload.data)
    {fault : ValidationError} :
    node.apply filter params payload origins = .error (.validation fault) ↔
      ∃ raw, node.processor.Computes params payload.data.data raw ∧ raw.Breaks fault := by
  have hpassing : node.producesData = false → (node.apply filter params payload origins =
      .error (.validation fault) ↔
        ∃ raw, node.processor.Computes params payload.data.data raw ∧ raw.Breaks fault) := by
    intro h
    constructor
    · intro happly
      exact Bool.noConfusion (unjudging_of_passing hnode h _ happly)
    · rintro ⟨raw, hraw, -⟩
      exact absurd hraw (not_computes_of_passing h payload.data.data raw)
  cases hp : node.processor with
  | operation p =>
    rw [hp] at hnode
    have haccepts := accepts_of_operation hp hfits
    rw [apply, hp, ← (hnode payload.data params haccepts).invalid fault]
    exact Outcome.bind_ok_eq_error_iff
  | source p =>
    rw [hp] at hnode
    rw [apply, hp, ← (hnode payload.data.data params).invalid fault]
    exact Outcome.bind_ok_eq_error_iff
  | payloadSource p =>
    rw [hp] at hnode
    rw [apply, hp, ← (hnode payload.data.data params).invalid fault]
    exact Outcome.bind_ok_eq_error_iff.trans Outcome.bind_ok_eq_error_iff.symm
  | probe p | context p | sink p | payloadSink p =>
    rw [← hp]
    refine hpassing ?_
    simp [producesData, Processor.producesData, Processor.kind, hp, ProcessorKind.producesData]

/-- The data behind a node that produces data is the raw value that it computed. -/
theorem computes_of_apply (hnode : node.processor.Validates) (hfits : node.Fits payload.data)
    {effect : Effect} (h : node.apply filter params payload origins = .ok effect)
    (hproduces : node.producesData = true) :
    node.processor.Computes params payload.data.data effect.payload.data.data := by
  have hcall := produces_of_apply h hproduces
  unfold Produces at hcall
  cases hp : node.processor with
  | operation p =>
    rw [hp] at hnode hcall
    have haccepts := accepts_of_operation hp hfits
    exact (hnode payload.data params haccepts).ok _ hcall
  | source p =>
    rw [hp] at hnode hcall
    exact (hnode payload.data.data params).ok _ hcall
  | payloadSource p =>
    rw [hp] at hnode hcall
    obtain ⟨produced, hproduced, hdata⟩ := hcall
    refine (hnode payload.data.data params).ok _ ?_
    rw [hproduced, ← hdata]
    rfl
  | probe p | context p | sink p | payloadSink p =>
    rw [hp] at hcall
    exact hcall.elim

/-- A zero of either sign is refused as a divisor. -/
theorem apply_divide_by_zero (hp : node.processor = .operation Processor.floatDivide)
    (hfits : node.Fits payload.data) {divisor : Float}
    (hdivisor : params.float "divisor" = .ok divisor) (hzero : (divisor == 0) = true) :
    node.apply filter params payload origins = .error (.failed "division by zero") := by
  obtain ⟨value, hdata⟩ := Processor.float_of_accepts (accepts_of_operation hp hfits)
  have hvalue : Processor.floatInput "float_divide" payload.data = .ok value :=
    Processor.floatInput_eq_ok_iff.mpr hdata
  simp [apply, hp, Processor.floatDivide, hvalue, hdivisor, hzero]

end Node

/-! ## A run -/

/-- What a run hands to the node at a position. -/
def arrival (filter : LogFilter) (nodes : List Node) (payload : Payload) (t : Nat) : Checkpoint :=
  checkpointAt (.start payload) (passages filter nodes (.start payload)) t

/-- The node at a position is called: the run comes that far, the data has a type that the node
accepts, and all its arguments are there. -/
structure Called (filter : LogFilter) (nodes : List Node) (payload : Payload) (t : Nat)
    (node : Node) (params : Parameters) : Prop where
  position : nodes[t]? = some node
  reached : t ≤ (passages filter nodes (.start payload)).length
  fits : node.Fits (arrival filter nodes payload t).payload.data
  resolve : ∃ sources, node.resolve (arrival filter nodes payload t).context
    (arrival filter nodes payload t).origins = .ok (params, sources)

section Run

variable {filter : LogFilter} {nodes : List Node} {payload : Payload} {t : Nat} {node : Node}
  {params : Parameters} {raw : Data} {fault : ValidationError}

/-- A node that fails when the run reaches it is the one behind the completed ones. -/
theorem length_of_execute_error {e : PipelineError} (hnode : nodes[t]? = some node)
    (hreached : t ≤ (passages filter nodes (.start payload)).length)
    (herror : node.execute filter (arrival filter nodes payload t).payload
      (arrival filter nodes payload t).origins = .error e) (watch : Stopwatch) :
    (passages filter nodes (.start payload)).length = t ∧
      (Run.of filter watch nodes payload).result = .error e := by
  have hlinked := passages_linked filter nodes (.start payload)
  have hlength : (passages filter nodes (.start payload)).length = t := by
    refine Nat.le_antisymm (Nat.le_of_not_lt fun hlt => ?_) hreached
    have hp := List.getElem?_eq_getElem hlt
    have hexecute := hlinked.execute t _ hp
    rw [hlinked.before t _ hp, ← Option.some.inj (hnode.symm.trans (hlinked.node t _ hp))]
      at hexecute
    cases herror.symm.trans hexecute
  refine ⟨hlength, ?_⟩
  subst hlength
  rw [arrival, checkpointAt_length] at herror
  exact Run.error_of_execute watch hnode herror

/-- A refusal by the processor of a node that is called ends the run. -/
theorem Called.refuses (h : Called filter nodes payload t node params) (hindex : node.index = t)
    {cause : ProcessorError}
    (happly : node.apply filter params (arrival filter nodes payload t).payload
      (arrival filter nodes payload t).origins = .error cause) (watch : Stopwatch) :
    (passages filter nodes (.start payload)).length = t ∧
      (Run.of filter watch nodes payload).result = .error (.processor t node.name cause) := by
  obtain ⟨sources, hresolve⟩ := h.resolve
  have herror := Node.execute_eq_error_iff.mpr (.processor h.fits hresolve happly)
  rw [hindex] at herror
  exact length_of_execute_error h.position h.reached herror watch

theorem Called.aborts (h : Called filter nodes payload t node params)
    (hnode : node.processor.Validates) (hindex : node.index = t)
    (hraw : node.processor.Computes params (arrival filter nodes payload t).payload.data.data raw)
    (hbreaks : raw.Breaks fault) (watch : Stopwatch) :
    (passages filter nodes (.start payload)).length = t ∧
      (Run.of filter watch nodes payload).result =
        .error (.processor t node.name (.validation fault)) :=
  h.refuses hindex ((Node.apply_invalid_iff hnode h.fits).mpr ⟨raw, hraw, hbreaks⟩) watch

/-- A run that ends with a broken rule ends at a node that computed a raw value which breaks it. -/
theorem called_of_invalid (hnodes : ∀ node ∈ nodes, node.processor.Validates)
    (hindex : ∀ (t : Nat) (node : Node), nodes[t]? = some node → node.index = t)
    {watch : Stopwatch} {name : String}
    (h : (Run.of filter watch nodes payload).result =
      .error (.processor t name (.validation fault))) :
    ∃ node params raw, Called filter nodes payload t node params ∧
      (passages filter nodes (.start payload)).length = t ∧ node.name = name ∧
      node.processor.Computes params (arrival filter nodes payload t).payload.data.data raw ∧
      raw.Breaks fault := by
  obtain ⟨node, hnode, hexecute⟩ := Run.of_eq_error h
  have hposition := hindex _ node hnode
  cases Node.execute_eq_error_iff.mp hexecute with
  | @processor params sources _ hfits hresolve happly =>
    have hvalidates := hnodes node (List.mem_of_getElem? hnode)
    obtain ⟨raw, hraw, hbreaks⟩ := (Node.apply_invalid_iff hvalidates hfits).mp happly
    have harrival : arrival filter nodes payload node.index =
        behind (.start payload) (passages filter nodes (.start payload)) := by
      rw [hposition]
      exact checkpointAt_length _ _
    rw [← harrival] at hfits hresolve hraw
    have hcalled : Called filter nodes payload node.index node params :=
      ⟨hposition ▸ hnode, Nat.le_of_eq hposition, hfits, sources, hresolve⟩
    exact ⟨node, params, raw, hcalled, hposition.symm, rfl, hraw, hbreaks⟩

/-- What a completed node leaves is what it computed, or what it was handed. -/
theorem Linked.data_after {start : Checkpoint} {passed : List Passage}
    (hlinked : Linked filter nodes start passed)
    (hnodes : ∀ node ∈ nodes, node.processor.Validates) {p : Passage} (hp : passed[t]? = some p) :
    (p.node.producesData = true → p.node.processor.Computes p.params
        p.before.payload.data.data p.after.payload.data.data) ∧
      (p.node.producesData = false → p.after.payload.data = p.before.payload.data) := by
  have hexecute := hlinked.execute t p hp
  have happly := p.apply_of_execute hexecute
  have hvalidates := hnodes p.node (List.mem_of_getElem? (hlinked.node t p hp))
  have hfits := Node.checkInput_eq_ok_iff.mp (Node.execute_eq_ok_iff.mp hexecute).1
  exact ⟨Node.computes_of_apply hvalidates hfits happly, Node.data_of_apply happly⟩

end Run

/-! ## Numbers that a probe takes -/

theorem Processor.floatValueProbe_eq_ok {data : TypedData} {params : Parameters} {shown : Json}
    (h : floatValueProbe.probe data params = .ok shown) :
    ∃ value, data.data = .float value ∧ value.isFinite = true ∧ shown = .float value := by
  obtain ⟨value, hinput, hshown⟩ := Outcome.bind_eq_ok_iff.mp h
  have hdata := floatInput_eq_ok_iff.mp (Outcome.lift_eq_ok_iff.mp hinput)
  have hvalid := Data.fault?_eq_none_iff.mp data.valid
  rw [hdata] at hvalid
  cases hshown
  exact ⟨value, hdata, hvalid, if_pos hvalid⟩

theorem Parameters.float_eq_ok {params : Parameters} {name : String} {value : Float}
    (h : params.get? name = some (.float value)) : params.float name = .ok value := by
  simp only [Parameters.float, read, Parameters.value, h, bind, Except.bind, Json.asFloat?]

/-- A float probe at a position of a run takes a number, and whoever gets this number as an argument
gets the float that the data was. -/
structure Passage.TakesNumber (passed : List Passage) (t : Nat) (p : Passage) (value : Float) :
    Prop where
  data : p.before.payload.data.data = .float value
  finite : value.isFinite = true
  shown : p.outcome.probeValue? = some (.float value)
  injected : ∀ key, p.node.config.contextKeyword? = some key →
    p.after.context.get? key = some (.float value)
  /-- By whichever way the number came there. -/
  arrived : ∀ later ∈ passed, ∀ name, later.params.get? name = p.outcome.probeValue? →
    later.params.float name = .ok value
  /-- In particular if the node is recorded as the origin of the argument. -/
  recorded : ∀ (u : Nat) (later : Passage) (name : String), passed[u]? = some later →
    later.outcome.sources.get? name = some (.context (some t)) →
      t < u ∧ p.node.config.contextKeyword? = some name ∧ later.params.float name = .ok value

section Probe

variable {filter : LogFilter} {nodes : List Node} {start : Checkpoint} {passed : List Passage}

/-- What is recorded of a key as a node's writing is a touch of the passage of that node. -/
theorem Linked.mem_touches_of_writtenLast (hlinked : Linked filter nodes start passed)
    (hindex : ∀ (t : Nat) (node : Node), nodes[t]? = some node → node.index = t) {t u : Nat}
    {name : String} (h : Touch.WrittenLast t name (touchesOf (passed.take u))) {p : Passage}
    (hp : passed[t]? = some p) : (⟨t, name, .write⟩ : Touch) ∈ p.touches := by
  obtain ⟨before, after, hsplit, -⟩ := h
  have hmem : (⟨t, name, .write⟩ : Touch) ∈ touchesOf (passed.take u) := by
    rw [hsplit]
    simp
  obtain ⟨q, hq, htouch⟩ := List.mem_flatMap.mp hmem
  obtain ⟨s, hs⟩ := List.mem_iff_getElem?.mp (List.mem_of_mem_take hq)
  have hst : t = s := (Node.node_of_mem_touches htouch).trans (hindex s _ (hlinked.node s q hs))
  subst hst
  cases hp.symm.trans hs
  exact htouch

theorem Linked.takesNumber {payload : Payload}
    (hlinked : Linked filter nodes (.start payload) passed)
    (hindex : ∀ (t : Nat) (node : Node), nodes[t]? = some node → node.index = t) {t : Nat}
    {p : Passage} (hp : passed[t]? = some p)
    (hprobe : p.node.processor = .probe Processor.floatValueProbe) :
    ∃ value, p.TakesNumber passed t value := by
  have happly := p.apply_of_execute (hlinked.execute t p hp)
  rw [Node.apply, hprobe] at happly
  obtain ⟨shown, hcall, heffect⟩ := Outcome.bind_eq_ok_iff.mp happly
  have heffect := Outcome.ok.inj heffect
  obtain ⟨value, hdata, hfinite, rfl⟩ := Processor.floatValueProbe_eq_ok hcall
  have hshown : p.outcome.probeValue? = some (.float value) := by
    rw [← heffect]
    cases p.node.config.contextKeyword? <;> rfl
  have hinjected : ∀ key, p.node.config.contextKeyword? = some key →
      p.after.context.get? key = some (.float value) := by
    intro key hkey
    show p.outcome.payload.context.get? key = _
    rw [← heffect, hkey]
    exact KeyMap.get?_insert_self _ _ _
  refine ⟨value, hdata, hfinite, hshown, hinjected, fun later _ name hname => ?_, ?_⟩
  · exact Parameters.float_eq_ok (hname.trans hshown)
  · intro u later name hlater hsource
    have hu : u ≤ passed.length := Nat.le_of_lt (List.getElem?_eq_some_iff.mp hlater).1
    have htrue := (hlinked.trueOrigins hindex hu).trueSources (hlinked.before u later hlater)
      (Passage.resolve_of_execute (hlinked.execute u later hlater))
    obtain ⟨hlt, hwritten, shown, hparam, hcontext⟩ := htrue.produced name t hsource
    have htouch := hlinked.mem_touches_of_writtenLast hindex hwritten hp
    have hkey : p.node.config.contextKeyword? = some name := by
      rw [Passage.touches, Node.touches, hprobe] at htouch
      obtain ⟨key, hkey, heq⟩ := List.mem_map.mp htouch
      cases heq
      exact Option.mem_toList.mp hkey
    rw [checkpointAt_succ hp, hinjected name hkey] at hcontext
    exact ⟨hlt, hkey, Parameters.float_eq_ok (hparam.trans hcontext.symm)⟩

end Probe

/-! ## Calls -/

namespace Pipeline

/-- What a call makes of valid data.  All data on the way is valid, and so is every raw value that
was handed on; a node that computes one which is not ends the run, with the rule that it breaks. -/
structure KeepsValid (filter : LogFilter) (nodes : List Node) (payload : Payload)
    (result : Outcome PipelineError Payload) : Prop where
  valid : ∀ t, t ≤ (passages filter nodes (.start payload)).length →
    (arrival filter nodes payload t).payload.data.data.Valid
  /-- The data behind a completed node is what it computed, unvalidated, or the data in front. -/
  computed : ∀ (t : Nat) (p : Passage), (passages filter nodes (.start payload))[t]? = some p →
    (p.node.producesData = true → p.node.processor.Computes p.params
        (arrival filter nodes payload t).payload.data.data
        (arrival filter nodes payload (t + 1)).payload.data.data) ∧
      (p.node.producesData = false → (arrival filter nodes payload (t + 1)).payload.data =
        (arrival filter nodes payload t).payload.data)
  /-- An invalid raw value ends the run at the node that computed it. -/
  invalid : ∀ t node params raw, Called filter nodes payload t node params →
    node.processor.Computes params (arrival filter nodes payload t).payload.data.data raw →
    ¬ raw.Valid → (passages filter nodes (.start payload)).length = t ∧
      ∃ fault, raw.Breaks fault ∧ result = .error (.processor t node.name (.validation fault))
  /-- So does any float operation with a result that is not finite, even if it is not the last. -/
  overflow : ∀ t (k : Producer) node params x, Called filter nodes payload t node params →
    k.processor = node.processor →
    k.Reckons params (arrival filter nodes payload t).payload.data.data x → x.isFinite = false →
    (passages filter nodes (.start payload)).length = t ∧ ∃ value, value.isFinite = false ∧
      result = .error (.processor t node.name (.validation (.nonFinite .float value)))
  /-- A division by a zero is not even tried. -/
  division : ∀ t node params divisor, Called filter nodes payload t node params →
    node.processor = .operation Processor.floatDivide →
    params.float "divisor" = .ok divisor → (divisor == 0) = true →
    (passages filter nodes (.start payload)).length = t ∧
      result = .error (.processor t node.name (.failed "division by zero"))
  /-- No run ends with a broken rule for another reason. -/
  only : ∀ t name fault, result = .error (.processor t name (.validation fault)) →
    ∃ node params raw, Called filter nodes payload t node params ∧
      (passages filter nodes (.start payload)).length = t ∧ node.name = name ∧
      node.processor.Computes params (arrival filter nodes payload t).payload.data.data raw ∧
      raw.Breaks fault

theorem keepsValid {nodes : List Node} (hnodes : ∀ node ∈ nodes, node.processor.Validates)
    (hindex : ∀ (t : Nat) (node : Node), nodes[t]? = some node → node.index = t)
    (filter : LogFilter) (watch : Stopwatch) (payload : Payload) :
    KeepsValid filter nodes payload (Run.of filter watch nodes payload).result where
  valid t _ := Data.fault?_eq_none_iff.mp (arrival filter nodes payload t).payload.data.valid
  computed t p hp := by
    have hlinked := passages_linked filter nodes (.start payload)
    have hafter : arrival filter nodes payload (t + 1) = p.after := checkpointAt_succ hp
    have hbefore : arrival filter nodes payload t = p.before := (hlinked.before t p hp).symm
    rw [hafter, hbefore]
    exact hlinked.data_after hnodes hp
  invalid t node params raw hcalled hraw hinvalid := by
    have hnode := List.mem_of_getElem? hcalled.position
    obtain ⟨fault, hfault⟩ : ∃ fault, raw.fault? = some fault := by
      rw [← Option.isSome_iff_exists, Option.isSome_iff_ne_none]
      exact fun h => hinvalid (Data.fault?_eq_none_iff.mp h)
    have hbreaks := Data.fault?_eq_some_iff.mp hfault
    obtain ⟨hlength, hresult⟩ := hcalled.aborts (hnodes node hnode)
      (hindex t node hcalled.position) hraw hbreaks watch
    exact ⟨hlength, fault, hbreaks, hresult⟩
  overflow t k node params x hcalled hk hreckons hx := by
    have hnode := List.mem_of_getElem? hcalled.position
    obtain ⟨value, hvalue, hfinite⟩ := hreckons.not_finite hx
    obtain ⟨hlength, hresult⟩ := hcalled.aborts (hnodes node hnode)
      (hindex t node hcalled.position) ⟨k, hk, hvalue⟩ (.float hfinite) watch
    exact ⟨hlength, value, hfinite, hresult⟩
  division t node params divisor hcalled hp hdivisor hzero := by
    exact hcalled.refuses (hindex t node hcalled.position)
      (Node.apply_divide_by_zero hp hcalled.fits hdivisor hzero) watch
  only t name fault h := called_of_invalid hnodes hindex h

/-- Invalid data never circulates: in every call of a pipeline over the built-in processors and the
misbehaving ones, all data is valid behind every node, a raw value that is not ends the run with a
validation error at the node that computed it, and so does every operation on floats that
overflows.  Float probes therefore take numbers, which are the same floats again as arguments. -/
theorem invalid_data_never_circulates {registry : Registry}
    (hregistry : registry = .builtin ∨ registry = .withFaulty) {configs : List NodeConfig}
    {p : Pipeline} (hp : Pipeline.new registry configs = .ok p) (history : List ProcessCall)
    (filter : LogFilter) (watch : Stopwatch) (payload : Payload) :
    let run := ((p.processAll history).process filter watch payload).1
    let passed := passages filter p.nodes (.start payload)
    run.completed = passed.map (·.record watch) ∧
    KeepsValid filter p.nodes payload run.result ∧
    ∀ (t : Nat) (passage : Passage), passed[t]? = some passage →
      passage.node.processor = .probe Processor.floatValueProbe →
        ∃ value, passage.TakesNumber passed t value := by
  intro run passed
  have hbound := (Topology.build_eq_ok_iff.mp (nodes_of_new hp)).1
  have hnodes : ∀ node ∈ p.nodes, node.processor.Validates := fun node hnode =>
    Registry.validates_of_resolve hregistry (Topology.resolve_of_mem_bindFrom hbound node hnode)
  have hindex : ∀ (t : Nat) (node : Node), p.nodes[t]? = some node → node.index = t :=
    fun t node => Topology.build_index (nodes_of_new hp)
  have hrun : run = Run.of filter watch p.nodes payload :=
    p.process_processAll history filter watch payload
  refine ⟨?_, ?_, fun t passage hpassage hprobe => ?_⟩
  · rw [hrun]
    exact (Run.ofNodes_eq filter watch p.nodes (.start payload)).1
  · rw [hrun]
    exact keepsValid hnodes hindex filter watch payload
  · exact (passages_linked filter p.nodes (.start payload)).takesNumber hindex hpassage hprobe

/-- The largest float there is goes into the context as the factor by which it is multiplied. -/
theorem invalid_data_never_circulates_of_square :
    let big := Float.ofBits 0x7FEFFFFFFFFFFFFF
    let payload : Payload := { data := ⟨.float big, by decide⟩ }
    ∃ p, Pipeline.new .withFaulty
        [{ processor := "float_value_probe", contextKeyword? := some "factor" },
          { processor := "float_multiply" }] = .ok p ∧
      (passages .all p.nodes (.start payload)).length = 1 ∧
      (p.process .all .stopped payload).1.result =
        .error (.processor 1 "float_multiply" (.validation (.nonFinite .float (big * big)))) ∧
      KeepsValid .all p.nodes payload (p.process .all .stopped payload).1.result ∧
      ∃ passage value, (passages .all p.nodes (.start payload))[0]? = some passage ∧
        passage.TakesNumber (passages .all p.nodes (.start payload)) 0 value := by
  obtain ⟨p, hp, hlength, hresult, passage, hpassage, hprobe⟩ :
      let big := Float.ofBits 0x7FEFFFFFFFFFFFFF
      let payload : Payload := { data := ⟨.float big, by decide⟩ }
      ∃ p, Pipeline.new .withFaulty
          [{ processor := "float_value_probe", contextKeyword? := some "factor" },
            { processor := "float_multiply" }] = .ok p ∧
        (passages .all p.nodes (.start payload)).length = 1 ∧
        (p.process .all .stopped payload).1.result =
          .error (.processor 1 "float_multiply" (.validation (.nonFinite .float (big * big)))) ∧
        ∃ passage, (passages .all p.nodes (.start payload))[0]? = some passage ∧
          passage.node.processor = .probe Processor.floatValueProbe :=
    ⟨_, rfl, rfl, rfl, _, rfl, rfl⟩
  intro big payload
  obtain ⟨-, hvalid, hprobes⟩ :=
    invalid_data_never_circulates (.inr rfl) hp [] .all .stopped payload
  obtain ⟨value, hvalue⟩ := hprobes 0 passage hpassage hprobe
  exact ⟨p, hp, hlength, hresult, hvalid, passage, value, hpassage, hvalue⟩

end Pipeline
end Dataflow
