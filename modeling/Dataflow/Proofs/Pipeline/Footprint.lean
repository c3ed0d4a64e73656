/-
Nodes change nothing of the payload but what they declare.

`Node.Footprint` says for each role what a completed node may have changed.  A context processor
gets no other access than its gate, so whatever operations it chooses, those that were performed
write keys that it declares to create and delete keys that it declares to suppress
(`Edit.permitted_touches`).  Over a run the footprints add up: the data is what the last producer
made of it, a key that nobody changes keeps its value, and a key that was deleted stays absent
until it is written.
-/
import Dataflow.Proofs.Context.Record
import Dataflow.Proofs.Pipeline.Adjacency
import Dataflow.Proofs.Pipeline.InPlace
import Dataflow.Proofs.Pipeline.Irrelevance

namespace Dataflow

/-! ## Operations on the gate -/

/-- The key is one of those that may be written, or that may be deleted. -/
def Touch.Permitted (writable deletable : List String) (touch : Touch) : Prop :=
  match touch.kind with
  | .write => touch.key ∈ writable
  | .deletion => touch.key ∈ deletable

theorem GateCall.permitted_touches {gate gate' : Gate} {c : GateCall} {found : Option Json}
    (h : gate.perform c = (.ok found, gate')) (node : Nat) :
    ∀ touch ∈ c.touches node, touch.Permitted gate.writable gate.deletable := by
  have hperformed := gate.performed c
  rw [h] at hperformed
  cases hperformed with
  | got key => exact nofun
  | wrote hkey value => exact List.forall_mem_singleton.mpr hkey
  | removed hkey => exact List.forall_mem_singleton.mpr hkey
  | renamed hold hnew hvalue =>
    exact List.forall_mem_cons.mpr ⟨hold, List.forall_mem_singleton.mpr hnew⟩

/-- Whatever operations an edit chooses, those that are performed keep to what the gate permits. -/
theorem Edit.permitted_touches (edit : Edit) (gate : Gate) (node : Nat) :
    ∀ touch ∈ edit.touches node gate, touch.Permitted gate.writable gate.deletable := by
  induction edit generalizing gate with
  | finish result => exact nofun
  | call c next ih =>
    intro touch htouch
    rcases List.mem_append.mp htouch with h | h
    · split at h
      · rename_i hfound
        exact GateCall.permitted_touches (Prod.ext hfound rfl) node touch h
      · cases h
    · obtain ⟨-, hwritable, hdeletable⟩ := gate.perform_permits c
      have hpermitted := ih (gate.perform c).1 (gate.perform c).2 touch h
      rwa [hwritable, hdeletable] at hpermitted

/-- What a context processor may do: of its keys, in order, and between the contexts in front of it
and behind it. -/
structure Confined (created suppressed : List String) (touches : List Touch)
    (before after : Context) : Prop where
  touches : ∀ touch ∈ touches, touch.Permitted created suppressed
  removed : ∀ key, before.contains key = true → after.contains key = false → key ∈ suppressed
  written : ∀ key value, after.get? key = some value → before.get? key ≠ some value →
    key ∈ created

/-! ## One node -/

namespace Node

/-- What a completed node may have changed of the payload, by the kind of its processor. -/
def Footprint (node : Node) (params : Parameters) (before after : Payload) : Prop :=
  match node.processor with
  | .operation _ | .source _ => after.context = before.context
  | .probe _ =>
    match node.config.contextKeyword? with
    | none => after = before
    | some keyword => after.data = before.data ∧
      ∀ key, key ≠ keyword → after.context.get? key = before.context.get? key
  | .context p => after.data = before.data ∧ Confined p.createdKeys p.suppressedKeys
      (node.touches params before) before.context after.context
  | .payloadSource p => ∃ produced, p.produce params = .ok produced ∧
      (∀ key value, produced.context.get? key = some value →
        after.context.get? key = some value) ∧
      ∀ key, produced.context.get? key = none → after.context.get? key = before.context.get? key
  | .sink _ | .payloadSink _ => after = before

/-- What a node that produces data makes of the data in front of it. -/
def Produces (node : Node) (params : Parameters) (input output : TypedData) : Prop :=
  match node.processor with
  | .operation p => p.process input params = .ok output
  | .source p => p.produce params = .ok output
  | .payloadSource p => ∃ produced, p.produce params = .ok produced ∧ produced.data = output
  | _ => False

variable {node : Node} {filter : LogFilter} {params : Parameters} {payload : Payload}
  {origins : KeyOrigins} {effect : Effect}

theorem produces_of_apply (h : node.apply filter params payload origins = .ok effect)
    (hproduces : node.producesData = true) :
    node.Produces params payload.data effect.payload.data := by
  unfold Produces
  cases applied h with
  | operation hp hcall => simpa only [hp] using hcall
  | source hp hcall => simpa only [hp] using hcall
  | @payloadSource p produced hp hcall =>
    simp only [hp]
    exact ⟨produced, hcall, rfl⟩
  | probe hp | context hp | sink hp | payloadSink hp =>
    simp [producesData, Processor.producesData, Processor.kind, hp,
      ProcessorKind.producesData] at hproduces

/-- A touch of a node is declared, or an entry of the payload that it makes. -/
theorem touch_cases {touch : Touch} (h : touch ∈ node.touches params payload) :
    touch.Permitted node.createdKeys node.suppressedKeys ∨
      ∃ source produced, node.processor = .payloadSource source ∧
        source.produce params = .ok produced ∧ produced.context.contains touch.key = true := by
  unfold Node.touches at h
  cases hp : node.processor with
  | probe p =>
    simp only [hp, List.mem_map] at h
    obtain ⟨keyword, hkeyword, rfl⟩ := h
    exact .inl (by simpa only [Touch.Permitted, createdKeys, hp] using hkeyword)
  | context p =>
    simp only [hp] at h
    have hpermitted := Edit.permitted_touches _ _ node.index touch h
    simp only [createdKeys, suppressedKeys, hp]
    exact .inl hpermitted
  | payloadSource p =>
    simp only [hp] at h
    cases hproduce : p.produce params with
    | ok produced =>
      simp only [hproduce, List.mem_map] at h
      obtain ⟨key, hkey, rfl⟩ := h
      exact .inr ⟨p, produced, rfl, hproduce, (KeyMap.mem_keys_iff _).mp hkey⟩
    | error e => simp [hproduce] at h
    | crash m => simp [hproduce] at h
  | _ => simp [hp] at h

/-- A key that is removed was touched last by a deletion, one that has a new value by a write. -/
theorem confined_of_shows {before after : Checkpoint} {created suppressed : List String}
    {touches : List Touch} (htouches : ∀ touch ∈ touches, touch.Permitted created suppressed)
    (hshows : ∀ key, before.Shows after key (Touch.last? key touches)) :
    Confined created suppressed touches before.context after.context := by
  refine ⟨htouches, fun key hbefore hafter => ?_, fun key value hafter hbefore => ?_⟩
  · rw [KeyMap.contains_eq_false_iff] at hafter
    match hlast : Touch.last? key touches, hshows key with
    | none, hshown =>
      rw [KeyMap.contains, ← hshown.1, hafter] at hbefore
      cases hbefore
    | some ⟨n, k, .write⟩, hshown =>
      have hpresent : (after.context.get? key).isSome := hshown.1
      rw [hafter] at hpresent
      cases hpresent
    | some ⟨n, k, .deletion⟩, hshown =>
      have hkey : k = key := Touch.key_of_last? hlast
      exact hkey ▸ htouches _ (Touch.mem_of_last? hlast)
  · match hlast : Touch.last? key touches, hshows key with
    | none, hshown => exact absurd (hshown.1.symm.trans hafter) hbefore
    | some ⟨n, k, .write⟩, hshown =>
      have hkey : k = key := Touch.key_of_last? hlast
      exact hkey ▸ htouches _ (Touch.mem_of_last? hlast)
    | some ⟨n, k, .deletion⟩, hshown => cases hafter.symm.trans hshown.1

theorem footprint_of_apply (h : node.apply filter params payload origins = .ok effect) :
    node.Footprint params payload effect.payload := by
  unfold Footprint
  cases applied h with
  | operation hp | source hp => simp only [hp]
  | sink hp | payloadSink hp => simp only [hp]
  | probe hp =>
    simp only [hp]
    cases node.config.contextKeyword? with
    | none => rfl
    | some keyword =>
      exact ⟨rfl, fun key hkey => KeyMap.get?_insert_ne _ (Ne.symm hkey) _⟩
  | @context p gate hp hcall =>
    simp only [hp]
    have hshows : ∀ key, (Checkpoint.mk payload origins).Shows
        (Effect.ofGate node.index payload.data origins gate).checkpoint key
        (Touch.last? key (node.touches params payload)) := apply_shows h
    refine ⟨rfl, confined_of_shows (fun touch htouch => ?_) hshows⟩
    rcases touch_cases htouch with hpermitted | ⟨source, produced, hsource, -⟩
    · simpa only [createdKeys, suppressedKeys, Processor.suppressedKeys, hp] using hpermitted
    · cases hp.symm.trans hsource
  | @payloadSource p produced hp hcall =>
    simp only [hp]
    refine ⟨produced, hcall, fun key value hkey => ?_, fun key hkey => ?_⟩
    · exact (KeyMap.get?_foldl_entries _ _ key).trans (by rw [hkey]; rfl)
    · exact (KeyMap.get?_foldl_entries _ _ key).trans (by rw [hkey]; rfl)

end Node

/-! ## A run -/

/-- A node deleted the key, and none has written it since. -/
def Touch.Gone (key : String) (touches : List Touch) : Prop :=
  ∃ before node after, touches = before ++ ⟨node, key, .deletion⟩ :: after ∧
    ∀ touch ∈ after, touch.key = key → touch.kind = .deletion

theorem Touch.Gone.last? {key : String} {touches : List Touch} (h : Gone key touches) :
    ∃ node, Touch.last? key touches = some ⟨node, key, .deletion⟩ := by
  obtain ⟨before, node, after, rfl, hafter⟩ := h
  rw [List.append_cons, last?_append, last?_concat, if_pos rfl]
  cases hlast : Touch.last? key after with
  | none => exact ⟨node, rfl⟩
  | some touch =>
    have hkey : touch.key = key := key_of_last? hlast
    have hkind : touch.kind = .deletion := hafter touch (mem_of_last? hlast) hkey
    obtain ⟨n, k, kind⟩ := touch
    cases hkey
    cases hkind
    exact ⟨n, rfl⟩

/-- A node touches no key that it does not change. -/
theorem Passage.free_of_not_changes {p : Passage} {key : String} (h : ¬ p.Changes key) :
    Touch.Free key p.touches := by
  rintro touch htouch rfl
  refine h ?_
  rcases Node.touch_cases htouch with hpermitted | hproduced
  · cases hkind : touch.kind with
    | write =>
      rw [Touch.Permitted, hkind] at hpermitted
      exact .inl hpermitted
    | deletion =>
      rw [Touch.Permitted, hkind] at hpermitted
      exact .inr (.inl hpermitted)
  · exact .inr (.inr hproduced)

section Run

variable {filter : LogFilter} {nodes : List Node} {start : Checkpoint} {passed : List Passage}

/-- Nodes that produce no data hand on the data from position to position. -/
theorem Linked.data_between (hlinked : Linked filter nodes start passed) {i j : Nat} (hij : i ≤ j)
    (hj : j ≤ passed.length)
    (hpasses : ∀ t node, i ≤ t → t < j → nodes[t]? = some node → node.producesData = false) :
    (checkpointAt start passed j).payload.data = (checkpointAt start passed i).payload.data := by
  induction hij with
  | refl => rfl
  | @step j hij ih =>
    obtain ⟨p, hp⟩ : ∃ p, passed[j]? = some p := ⟨_, List.getElem?_eq_getElem hj⟩
    have hnode : p.node.producesData = false :=
      hpasses j p.node hij (Nat.lt_succ_self j) (hlinked.node j p hp)
    have hdata : p.after.payload.data = p.before.payload.data :=
      Node.data_of_apply (p.apply_of_execute (hlinked.execute j p hp)) hnode
    rw [checkpointAt_succ hp, hdata, hlinked.before j p hp, ← checkpointAt]
    exact ih (Nat.le_of_succ_le hj)
      fun t node hit htj => hpasses t node hit (Nat.lt_succ_of_lt htj)

/-- Behind all nodes the data is what the last producer made. -/
theorem Linked.data_of_producer (hlinked : Linked filter nodes start passed)
    (hlength : passed.length = nodes.length) {producer : Node}
    (hproducer : Topology.ProducedBy nodes producer) :
    ∃ (t : Nat) (p : Passage), passed[t]? = some p ∧ p.node = producer ∧
      producer.Produces p.params p.before.payload.data (behind start passed).payload.data := by
  obtain ⟨earlier, later, hsplit, hproduces, hlater⟩ := hproducer
  have hposition : nodes[earlier.length]? = some producer := by
    rw [hsplit, List.getElem?_append_right (Nat.le_refl _), Nat.sub_self]
    rfl
  have hlt : earlier.length < passed.length := by
    rw [hlength, hsplit, List.length_append, List.length_cons]
    omega
  obtain ⟨p, hp⟩ : ∃ p, passed[earlier.length]? = some p := ⟨_, List.getElem?_eq_getElem hlt⟩
  have hnode : p.node = producer :=
    Option.some.inj ((hlinked.node _ p hp).symm.trans hposition)
  have hpasses : ∀ t node, earlier.length + 1 ≤ t → t < passed.length →
      nodes[t]? = some node → node.producesData = false := by
    intro t node hle _ ht
    rw [hsplit, List.append_cons, List.getElem?_append_right (by simpa using hle)] at ht
    exact hlater node (List.mem_of_getElem? ht)
  have hdata := hlinked.data_between hlt (Nat.le_refl _) hpasses
  rw [checkpointAt_length, checkpointAt_succ hp] at hdata
  refine ⟨earlier.length, p, hp, hnode, ?_⟩
  rw [hdata, ← hnode]
  exact Node.produces_of_apply (p.apply_of_execute (hlinked.execute _ p hp)) (hnode ▸ hproduces)

/-- A key that was deleted and not written since is absent behind any number of nodes. -/
theorem Linked.absent_of_gone (hlinked : Linked filter nodes start passed)
    (hindex : ∀ (t : Nat) (node : Node), nodes[t]? = some node → node.index = t) {t : Nat}
    (ht : t ≤ passed.length) {key : String} (hgone : Touch.Gone key (touchesOf (passed.take t))) :
    (checkpointAt start passed t).context.get? key = none := by
  obtain ⟨node, hlast⟩ := hgone.last?
  have hshows := (hlinked.shows hindex key t ht).1
  rw [hlast] at hshows
  exact hshows.1

end Run

/-- A completed run ends behind all of its nodes. -/
theorem Run.completes_of_ok {filter : LogFilter} {watch : Stopwatch} {nodes : List Node}
    {payload final : Payload} (h : (of filter watch nodes payload).result = .ok final) :
    let passed := passages filter nodes (.start payload)
    passed.length = nodes.length ∧ final = (behind (.start payload) passed).payload := by
  rcases ofNodes_ending filter watch nodes (.start payload) with
    ⟨hlength, hok⟩ | ⟨node, -, ⟨e, -, herror⟩ | ⟨m, -, hcrash⟩⟩
  · exact ⟨hlength, Outcome.ok.inj (h.symm.trans hok)⟩
  · cases herror.symm.trans h
  · cases hcrash.symm.trans h

/-- Where the node behind the completed ones fails, so does the run. -/
theorem Run.error_of_execute {filter : LogFilter} {nodes : List Node} {payload : Payload}
    {node : Node} {e : PipelineError} (watch : Stopwatch) :
    let passed := passages filter nodes (.start payload)
    let last := behind (.start payload) passed
    nodes[passed.length]? = some node →
      node.execute filter last.payload last.origins = .error e →
        (of filter watch nodes payload).result = .error e := by
  intro passed last hnode hexecute
  rcases ofNodes_ending filter watch nodes (.start payload) with
    ⟨hlength, -⟩ | ⟨other, hother, hend⟩
  · rw [show passed.length = nodes.length from hlength, List.getElem?_eq_none (Nat.le_refl _)]
      at hnode
    cases hnode
  · cases hnode.symm.trans hother
    rcases hend with ⟨e', hexecute', herror⟩ | ⟨m, hcrash, -⟩
    · cases hexecute.symm.trans hexecute'
      exact herror
    · cases hexecute.symm.trans hcrash

/-- A completed node changed nothing but what its footprint admits, and a failed one did not even
change the key origins, which are a table that every node of a run changes in place.  So a run
ends with the data that its last producer made, or with that of the caller if there is no
producer; a key that no node changed has the value that it had in the beginning, or is absent as
it was; and a key that was deleted is absent until it is written again. -/
theorem Pipeline.nodes_touch_what_they_declare :
    (∀ (node : Node) (filter : LogFilter) (payload : Payload) (origins : KeyOrigins),
      node.executeInPlace filter payload origins =
        (node.execute filter payload origins,
          match node.execute filter payload origins with
          | .ok outcome => outcome.origins
          | _ => origins) ∧
      ∀ outcome, node.execute filter payload origins = .ok outcome → ∃ params,
        node.resolve payload.context origins = .ok (params, outcome.sources) ∧
        node.Footprint params payload outcome.payload) ∧
    ∀ (registry : Registry) (configs : List NodeConfig) (p : Pipeline),
      Pipeline.new registry configs = .ok p → ∀ (history : List ProcessCall) (call : ProcessCall),
      let run := ((p.processAll history).process call.filter call.watch call.payload).1
      let start := Checkpoint.start call.payload
      let passed := passages call.filter p.nodes start
      run.origins = (behind start passed).origins ∧
      (∀ t key, t ≤ passed.length → Touch.Gone key (touchesOf (passed.take t)) →
        (checkpointAt start passed t).context.get? key = none) ∧
      ∀ final, run.result = .ok final →
        ((∀ node ∈ p.nodes, node.producesData = false) → final.data = call.payload.data) ∧
        (∀ producer, Topology.ProducedBy p.nodes producer → ∃ passage,
          passed[producer.index]? = some passage ∧ passage.node = producer ∧
          producer.Produces passage.params passage.before.payload.data final.data) ∧
        (∀ key, (∀ passage ∈ passed, ¬ passage.Changes key) →
          final.context.get? key = call.payload.context.get? key) ∧
        ∀ key, Touch.Gone key (touchesOf passed) → final.context.get? key = none := by
  constructor
  · intro node filter payload origins
    refine ⟨node.executeInPlace_eq filter payload origins, fun outcome h => ?_⟩
    obtain ⟨-, params, hresolve, happly⟩ := Node.execute_eq_ok_iff.mp h
    exact ⟨params, hresolve, Node.footprint_of_apply happly⟩
  · intro registry configs p hp history call run start passed
    have hrun : run = Run.of call.filter call.watch p.nodes call.payload :=
      p.process_processAll history call.filter call.watch call.payload
    have hlinked : Linked call.filter p.nodes start passed :=
      passages_linked call.filter p.nodes start
    have hindex : ∀ (t : Nat) (node : Node), p.nodes[t]? = some node → node.index = t :=
      fun _ _ => Topology.build_index (Pipeline.nodes_of_new hp)
    refine ⟨?_, fun t key ht hgone => hlinked.absent_of_gone hindex ht hgone, ?_⟩
    · rw [hrun]
      exact (Run.ofNodes_eq call.filter call.watch p.nodes start).2.1
    · intro final hfinal
      rw [hrun] at hfinal
      obtain ⟨hlength, rfl⟩ := Run.completes_of_ok hfinal
      refine ⟨fun hpasses => ?_, fun producer hproducer => ?_, fun key hkey => ?_,
        fun key hgone => ?_⟩
      · have hdata := hlinked.data_between (Nat.zero_le _) (Nat.le_refl _)
          fun t node _ _ hnode => hpasses node (List.mem_of_getElem? hnode)
        rwa [checkpointAt_length] at hdata
      · obtain ⟨t, passage, hpassage, hnode, hproduces⟩ :=
          hlinked.data_of_producer hlength hproducer
        have ht : producer.index = t := hnode ▸ hindex t _ (hlinked.node t passage hpassage)
        exact ⟨passage, ht ▸ hpassage, hnode, hproduces⟩
      · have hfree : Touch.Free key (touchesOf passed) :=
          Touch.free_flatMap.mpr fun passage hpassage =>
            Passage.free_of_not_changes (hkey passage hpassage)
        exact hlinked.get?_of_free hindex hfree
      · have habsent := hlinked.absent_of_gone hindex (Nat.le_refl passed.length)
          (by rwa [List.take_length])
        rwa [checkpointAt_length] at habsent

/-- The last node deletes what the probe wrote; the data is what the first one made, and the key of
the caller that nobody declares stays. -/
theorem Pipeline.nodes_touch_what_they_declare_of_probe :
    let call : ProcessCall := ⟨.all, .stopped,
      { data := .text "a", context := .ofList [("z", .null)] }⟩
    ∃ p final, Pipeline.new .builtin
        [{ processor := "prefix_suffix_adder", parameters := .ofList [("prefix", .str "b")] },
          { processor := "data_type_probe", contextKeyword? := some "k" },
          { processor := "delete:k" }] = .ok p ∧
      (p.process call.filter call.watch call.payload).1.result = .ok final ∧
      (∃ (producer : Node) (passage : Passage), Topology.ProducedBy p.nodes producer ∧
        producer.Produces passage.params passage.before.payload.data final.data) ∧
      final.context.get? "z" = some .null ∧ final.context.get? "k" = none := by
  intro call
  obtain ⟨p, first, later, final, hp, hnodes, hproduces, hlater, hdeclared, htouches, hresult⟩ :
      ∃ p first later final, Pipeline.new .builtin
          [{ processor := "prefix_suffix_adder", parameters := .ofList [("prefix", .str "b")] },
            { processor := "data_type_probe", contextKeyword? := some "k" },
            { processor := "delete:k" }] = .ok p ∧
        p.nodes = first :: later ∧ first.producesData = true ∧
        later.map Node.producesData = [false, false] ∧
        p.nodes.map (fun n => (n.createdKeys, n.suppressedKeys, n.role)) =
          [([], [], .operation), (["k"], [], .contextInjector), ([], ["k"], .contextMutator)] ∧
        touchesOf (passages call.filter p.nodes (.start call.payload)) =
          [⟨1, "k", .write⟩, ⟨2, "k", .deletion⟩] ∧
        (p.process call.filter call.watch call.payload).1.result = .ok final :=
    ⟨_, _, _, _, rfl, rfl, rfl, rfl, rfl, rfl, rfl⟩
  obtain ⟨-, hruns⟩ := Pipeline.nodes_touch_what_they_declare
  obtain ⟨-, -, hfinal⟩ := hruns .builtin _ p hp [] call
  obtain ⟨-, hmade, hkept, hgone⟩ := hfinal final hresult
  have hproducer : Topology.ProducedBy p.nodes first := by
    refine ⟨[], later, hnodes, hproduces, fun n hn => ?_⟩
    have hmem : n.producesData ∈ [false, false] := hlater ▸ List.mem_map_of_mem hn
    simpa using hmem
  have hdeclares : ∀ n ∈ p.nodes, "z" ∉ n.createdKeys ∧ "z" ∉ n.suppressedKeys ∧
      n.role ≠ .payloadSource := by
    intro n hn
    have hmem : (n.createdKeys, n.suppressedKeys, n.role) ∈ _ :=
      hdeclared ▸ List.mem_map.mpr ⟨n, hn, rfl⟩
    simp only [List.mem_cons, Prod.mk.injEq, List.not_mem_nil, or_false] at hmem
    rcases hmem with ⟨hcreates, hdeletes, hrole⟩ | ⟨hcreates, hdeletes, hrole⟩ |
        ⟨hcreates, hdeletes, hrole⟩
    all_goals
      rw [hcreates, hdeletes, hrole]
      decide
  have hothers : ∀ passage ∈ passages call.filter p.nodes (.start call.payload),
      ¬ passage.Changes "z" := by
    intro passage hpassage
    obtain ⟨t, ht⟩ := List.mem_iff_getElem?.mp hpassage
    have hnode := (passages_linked call.filter p.nodes (.start call.payload)).node t passage ht
    obtain ⟨hcreates, hdeletes, hrole⟩ := hdeclares _ (List.mem_of_getElem? hnode)
    rintro (hcreated | hsuppressed | ⟨source, -, hsource, -⟩)
    · exact hcreates hcreated
    · exact hdeletes hsuppressed
    · exact hrole (Node.role_eq_payloadSource_iff.mpr ⟨source, hsource⟩)
  obtain ⟨passage, -, -, hpassage⟩ := hmade first hproducer
  refine ⟨p, final, hp, hresult, ⟨first, passage, hproducer, hpassage⟩, ?_, ?_⟩
  · exact hkept "z" hothers
  · exact hgone "k" (htouches ▸ ⟨[⟨1, "k", .write⟩], 2, [], rfl, nofun⟩)

end Dataflow
