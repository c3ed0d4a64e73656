/-
What a run owes to the log filter.

A filter is meant to decide which events are seen and nothing else.  Of the built-in processors
only the two sinks are handed one, and they ask it a single question: whether it admits events of
level info.  `payload_log_sink` goes on whatever the answer is.  `float_log_sink` looks at its
label only if the answer is yes, so a label that is no string passes as long as nobody listens.
`Passage.Mislabelled` is that one case.  Runs under two filters are compared node by node, first
filters that answer alike, then a filter that admits the event and one that does not: they go the
same way up to the first mislabelled passage of the silent run, where the other one ends.

What is compared is everything but emissions and times: `Passage.muted` drops the former,
`Pipeline.untimed` the latter.
-/
import Dataflow.Proofs.Pipeline.Accumulation
import Dataflow.Proofs.Pipeline.Irrelevance

namespace Dataflow

namespace Outcome

variable {ε α : Type} {R S : α → α → Prop} {x y : Outcome ε α}

theorem Alike.mono (h : x.Alike R y) (hRS : ∀ a b, R a b → S a b) : x.Alike S y := by
  cases h with
  | ok h => exact .ok (hRS _ _ h)
  | error e => exact .error e
  | crash m => exact .crash m

end Outcome

/-! ## What is compared -/

/-- The effect without what was emitted. -/
def Effect.muted (e : Effect) : Effect := { e with emissions := [] }

def NodeOutcome.muted (o : NodeOutcome) : NodeOutcome := { o with toEffect := o.toEffect.muted }

/-- The passage without what it emitted. -/
def Passage.muted (p : Passage) : Passage := { p with outcome := p.outcome.muted }

/-- The record without how long the node took. -/
def NodeRun.untimed (r : NodeRun) : NodeRun := { r with duration := ⟨0⟩ }

/-- The account without times: the number of calls. -/
def NodeTiming.untimed (t : NodeTiming) : NodeTiming := { t with total := ⟨0⟩ }

/-- The pipeline without times. -/
def Pipeline.untimed (p : Pipeline) : Pipeline :=
  { p with timings := p.timings.map .untimed, lastRun := p.lastRun.map .untimed }

/-- One more call in the account of a node. -/
def NodeTiming.countCall (timings : List NodeTiming) (index : Nat) : List NodeTiming :=
  timings.modify index fun timing => { timing with calls := timing.calls + 1 }

namespace Pipeline

theorem untimed_addTiming (timings : List NodeTiming) (r : NodeRun) :
    (addTiming timings r).map .untimed =
      NodeTiming.countCall (timings.map .untimed) r.untimed.node.index := by
  refine List.ext_getElem? fun j => ?_
  simp only [addTiming, NodeTiming.countCall, List.getElem?_map, List.getElem?_modify]
  cases timings[j]? with
  | none => rfl
  | some timing =>
    by_cases hj : r.node.index = j
    · simp [hj, NodeRun.untimed, NodeTiming.untimed]
    · simp [hj, NodeRun.untimed]

theorem untimed_foldl_addTiming (records : List NodeRun) (timings : List NodeTiming) :
    (records.foldl addTiming timings).map .untimed =
      (records.map NodeRun.untimed).foldl (fun t r => NodeTiming.countCall t r.node.index)
        (timings.map .untimed) := by
  induction records generalizing timings with
  | nil => rfl
  | cons r rest ih => rw [List.foldl_cons, ih, untimed_addTiming, List.map_cons, List.foldl_cons]

theorem foldl_addCollected_untimed (records : List NodeRun) (results : KeyMap (List Json)) :
    records.foldl addCollected results =
      (records.map NodeRun.untimed).foldl addCollected results := by
  rw [List.foldl_map]
  rfl

/-- Without times, what a run leaves behind depends on its records without times. -/
theorem untimed_remember {q q' : Pipeline} (hq : q.untimed = q'.untimed) {run run' : Run}
    (hresult : run.result = run'.result)
    (hcompleted : run.completed.map NodeRun.untimed = run'.completed.map NodeRun.untimed) :
    (q.remember run).untimed = (q'.remember run').untimed := by
  simp only [untimed, Pipeline.mk.injEq] at hq
  obtain ⟨hnodes, htimings, hprobes, hlast⟩ := hq
  simp only [untimed, remember, Pipeline.mk.injEq]
  refine ⟨hnodes, ?_, ?_, ?_⟩
  · rw [untimed_foldl_addTiming, untimed_foldl_addTiming, htimings, hcompleted]
  · rw [foldl_addCollected_untimed, foldl_addCollected_untimed run'.completed, hprobes, hcompleted]
  · rw [← hresult]
    cases run.result with
    | crash m => exact hlast
    | ok payload => exact hcompleted
    | error e => exact hcompleted

end Pipeline

/-! ## Processors -/

/-- With what a `float_log_sink` refuses a label. -/
def ProcessorError.mislabelled (label : Json) : ProcessorError :=
  .invalidParameter "label" "a string" label.compact

theorem Parameters.text_eq_ok {params : Parameters} {name text : String} {value : Json}
    (hvalue : params.get? name = some value) (htext : value.asStr? = some text) :
    params.text name = .ok text := by
  simp only [Parameters.text, read, Parameters.value, hvalue, bind, Except.bind, htext]

theorem Parameters.text_eq_error {params : Parameters} {name : String} {value : Json}
    (hvalue : params.get? name = some value) (htext : value.asStr? = none) :
    params.text name = .error (.invalidParameter name "a string" value.compact) := by
  simp only [Parameters.text, read, Parameters.value, hvalue, bind, Except.bind, htext]

namespace Processor

/-- Of the filter the processor sees no more than whether it admits events of level info. -/
def AsksInfo : Processor → Prop
  | sink p => ∀ {filter filter' : LogFilter}, filter.admits .info = filter'.admits .info →
    p.consume filter = p.consume filter'
  | payloadSink p => ∀ {filter filter' : LogFilter}, filter.admits .info = filter'.admits .info →
    p.consume filter = p.consume filter'
  | _ => True

/-- The filter does not decide what a call of the processor with the arguments ends in. -/
def Unswayed (params : Parameters) : Processor → Prop
  | sink p => ∀ (filter filter' : LogFilter) (data : TypedData),
    (p.consume filter data params).Alike (fun _ _ => True) (p.consume filter' data params)
  | payloadSink p => ∀ (filter filter' : LogFilter) (payload : Payload),
    (p.consume filter payload params).Alike (fun _ _ => True) (p.consume filter' payload params)
  | _ => True

section floatLogSink

variable {filter loud silent : LogFilter} {data : TypedData} {params : Parameters}

theorem floatLogSink_asksInfo : (sink floatLogSink).AsksInfo := by
  intro filter filter' h
  unfold floatLogSink
  simp only [h]

theorem floatLogSink_silent (hsilent : silent.admits .info = false) :
    floatLogSink.consume silent data params =
      liftM (floatInput "float_log_sink" data) >>= fun _ => .ok [] := by
  simp [floatLogSink, hsilent]

theorem floatLogSink_loud (hloud : loud.admits .info = true) :
    floatLogSink.consume loud data params =
      liftM (floatInput "float_log_sink" data) >>= fun value =>
        liftM (params.text "label") >>= fun label => .ok
          [.logged ⟨.info, "float sink", [("label", .text label), ("value", .float value)]⟩] := by
  simp [floatLogSink, hloud]

/-- With a label that is text the sink goes on, whether or not it looks at it. -/
theorem floatLogSink_unswayed {label : String} (hlabel : params.text "label" = .ok label) :
    (sink floatLogSink).Unswayed params := by
  have hconsume : ∀ filter data, ∃ emitted : Float → List Emission,
      floatLogSink.consume filter data params =
        liftM (floatInput "float_log_sink" data) >>= fun value => .ok (emitted value) := by
    intro filter data
    cases hinfo : filter.admits .info with
    | false => exact ⟨fun _ => [], floatLogSink_silent hinfo⟩
    | true =>
      rw [floatLogSink_loud hinfo, hlabel]
      exact ⟨_, rfl⟩
  intro filter filter' data
  obtain ⟨emitted, h⟩ := hconsume filter data
  obtain ⟨emitted', h'⟩ := hconsume filter' data
  rw [h, h']
  exact (Outcome.alike_self _).bind fun _ _ _ => .ok trivial

/-- A label that is no text is refused by whoever looks at it. -/
theorem floatLogSink_refuses {cause : ProcessorError} (hloud : loud.admits .info = true)
    (hsilent : silent.admits .info = false) (hlabel : params.text "label" = .error cause) :
    floatLogSink.consume loud data params =
      floatLogSink.consume silent data params >>= fun _ => .error cause := by
  rw [floatLogSink_loud hloud, floatLogSink_silent hsilent, hlabel]
  cases floatInput "float_log_sink" data <;> rfl

end floatLogSink

theorem payloadLogSink_asksInfo : (payloadSink payloadLogSink).AsksInfo := by
  intro filter filter' h
  unfold payloadLogSink
  simp only [h]

theorem payloadLogSink_unswayed (params : Parameters) :
    (payloadSink payloadLogSink).Unswayed params := by
  intro filter filter' payload
  unfold payloadLogSink
  dsimp only
  split
  · split
    · exact .ok trivial
    · exact .ok trivial
  · split
    · exact .ok trivial
    · exact .ok trivial

theorem asksInfo_of_mem_builtins {p : Processor} (h : p ∈ builtins) : p.AsksInfo := by
  simp only [builtins, List.mem_cons, List.not_mem_nil, or_false] at h
  rcases h with rfl | rfl | rfl | rfl | rfl | rfl | rfl | rfl | rfl | rfl | rfl | rfl
  case inr.inr.inr.inr.inr.inr.inr.inr.inr.inr.inl => exact floatLogSink_asksInfo
  case inr.inr.inr.inr.inr.inr.inr.inr.inr.inr.inr => exact payloadLogSink_asksInfo
  all_goals trivial

theorem unswayed_of_mem_builtins {p : Processor} (h : p ∈ builtins) :
    p = .sink floatLogSink ∨ ∀ params, p.Unswayed params := by
  simp only [builtins, List.mem_cons, List.not_mem_nil, or_false] at h
  rcases h with rfl | rfl | rfl | rfl | rfl | rfl | rfl | rfl | rfl | rfl | rfl | rfl
  case inr.inr.inr.inr.inr.inr.inr.inr.inr.inr.inl => exact .inl rfl
  case inr.inr.inr.inr.inr.inr.inr.inr.inr.inr.inr => exact .inr payloadLogSink_unswayed
  all_goals exact .inr fun _ => trivial

end Processor

namespace Registry

theorem asksInfo_of_builtin {reference : String} {p : Processor}
    (h : builtin.resolve reference = .ok p) : p.AsksInfo := by
  rcases resolve_cases h with h | h
  · obtain ⟨c, rfl, -⟩ := Processor.dutiful_of_shorthand h
    trivial
  · exact Processor.asksInfo_of_mem_builtins (mem_builtins_of_get? h)

theorem unswayed_of_builtin {reference : String} {p : Processor}
    (h : builtin.resolve reference = .ok p) :
    p = .sink Processor.floatLogSink ∨ ∀ params, p.Unswayed params := by
  rcases resolve_cases h with h | h
  · obtain ⟨c, rfl, -⟩ := Processor.dutiful_of_shorthand h
    exact .inr fun _ => trivial
  · exact Processor.unswayed_of_mem_builtins (mem_builtins_of_get? h)

end Registry

/-! ## One node -/

/-- The passage is of a `float_log_sink` that was given a label that is no string. -/
def Passage.Mislabelled (p : Passage) (label : Json) : Prop :=
  p.node.processor = .sink Processor.floatLogSink ∧ p.params.get? "label" = some label ∧
    label.asStr? = none

namespace Node

variable {node : Node} {loud silent : LogFilter} {payload : Payload} {origins : KeyOrigins}

theorem execute_eq_of_asksInfo (hnode : node.processor.AsksInfo) {filter filter' : LogFilter}
    (h : filter.admits .info = filter'.admits .info) :
    node.execute filter payload origins = node.execute filter' payload origins := by
  have happly : ∀ params, node.apply filter params payload origins =
      node.apply filter' params payload origins := by
    intro params
    unfold apply
    cases hp : node.processor with
    | sink p =>
      rw [hp] at hnode
      simp only [hnode h]
    | payloadSink p =>
      rw [hp] at hnode
      simp only [hnode h]
    | _ => rfl
  unfold execute
  simp only [happly]

/-- A call that the filter does not sway has the same effect under any two filters, but for what
it emits. -/
theorem apply_alike_of_unswayed {params : Parameters} (hnode : node.processor.Unswayed params)
    (filter filter' : LogFilter) (payload : Payload) (origins : KeyOrigins) :
    (node.apply filter params payload origins).Alike (fun e e' => e.muted = e'.muted)
      (node.apply filter' params payload origins) := by
  unfold apply
  cases hp : node.processor with
  | sink p =>
    rw [hp] at hnode
    exact (hnode filter filter' payload.data).bind fun _ _ _ => .ok rfl
  | payloadSink p =>
    rw [hp] at hnode
    exact (hnode filter filter' payload).bind fun _ _ _ => .ok rfl
  | _ => exact (Outcome.alike_self _).mono fun _ _ h => congrArg Effect.muted h

theorem execute_alike_of_unswayed (filter filter' : LogFilter)
    (hnode : ∀ params sources, node.resolve payload.context origins = .ok (params, sources) →
      node.processor.Unswayed params) :
    (node.execute filter payload origins).Alike (fun o o' => o.muted = o'.muted)
      (node.execute filter' payload origins) := by
  unfold execute
  refine (Outcome.alike_self _).bind fun _ _ _ => ?_
  cases hresolve : node.resolve payload.context origins with
  | error e => exact .error e
  | ok resolved =>
    have hunswayed := hnode resolved.1 resolved.2 hresolve
    refine ((apply_alike_of_unswayed hunswayed filter filter' payload origins).mapError _).bind ?_
    intro e e' he
    exact .ok (congrArg (NodeOutcome.mk · resolved.2) he)

theorem execute_of_refused (hp : node.processor = .sink Processor.floatLogSink)
    (hloud : loud.admits .info = true) (hsilent : silent.admits .info = false)
    {params : Parameters} {sources : KeyMap ParameterSource} {cause : ProcessorError}
    (hresolve : node.resolve payload.context origins = .ok (params, sources))
    (hlabel : params.text "label" = .error cause) :
    node.execute loud payload origins =
      node.execute silent payload origins >>= fun _ =>
        .error (.processor node.index node.name cause) := by
  have happly : node.apply loud params payload origins =
      node.apply silent params payload origins >>= fun _ => .error cause := by
    unfold apply
    simp only [hp, Processor.floatLogSink_refuses hloud hsilent hlabel]
    cases Processor.floatLogSink.consume silent payload.data params <;> rfl
  unfold execute
  rw [hresolve]
  cases node.checkInput payload.data with
  | error e => rfl
  | ok u =>
    simp only [Outcome.lift_ok, Outcome.ok_bind, happly]
    cases node.apply silent params payload origins <;> rfl

/-- A node goes the same way with the event and without it, unless it is mislabelled: then it
completes without the event and refuses with it. -/
theorem execute_loud {c : Checkpoint} (hloud : loud.admits .info = true)
    (hsilent : silent.admits .info = false)
    (hnode : node.processor = .sink Processor.floatLogSink ∨
      ∀ params, node.processor.Unswayed params) :
    ((∀ outcome, node.execute silent c.payload c.origins = .ok outcome →
        ∀ label, ¬ Passage.Mislabelled ⟨node, c, outcome⟩ label) ∧
      (node.execute loud c.payload c.origins).Alike (fun o o' => o.muted = o'.muted)
        (node.execute silent c.payload c.origins)) ∨
    ∃ outcome label, node.execute silent c.payload c.origins = .ok outcome ∧
      Passage.Mislabelled ⟨node, c, outcome⟩ label ∧
      node.execute loud c.payload c.origins =
        .error (.processor node.index node.name (.mislabelled label)) := by
  by_cases hp : node.processor = .sink Processor.floatLogSink
  case neg =>
    have hunswayed := hnode.resolve_left hp
    exact .inl ⟨fun _ _ _ hmislabelled => hp hmislabelled.1,
      execute_alike_of_unswayed loud silent fun params _ _ => hunswayed params⟩
  cases hresolve : node.resolve c.payload.context c.origins with
  | error e =>
    refine .inl ⟨fun outcome hok => ?_, execute_alike_of_unswayed loud silent ?_⟩
    · obtain ⟨-, params, hresolved, -⟩ := execute_eq_ok_iff.mp hok
      cases hresolve.symm.trans hresolved
    · intro params sources hresolved
      cases hresolve.symm.trans hresolved
  | ok resolved =>
    obtain ⟨params, sources⟩ := resolved
    obtain ⟨label, hlabel⟩ : ∃ label, params.get? "label" = some label := by
      have hdeclared :
          ParameterSpec.optional "label" (.str "value") ∈ node.processor.parameters := by
        rw [hp]
        exact List.mem_singleton_self _
      exact Option.isSome_iff_exists.mp (contains_of_resolve hresolve hdeclared)
    have hparams : ∀ outcome, Passage.params ⟨node, c, outcome⟩ = params := by
      intro outcome
      unfold Passage.params Checkpoint.context
      rw [hresolve]
    cases htext : label.asStr? with
    | some text =>
      refine .inl ⟨fun outcome _ other hmislabelled => ?_, execute_alike_of_unswayed loud silent ?_⟩
      · rw [Passage.Mislabelled, hparams, hlabel] at hmislabelled
        obtain ⟨-, hother, hnone⟩ := hmislabelled
        cases hother
        cases htext.symm.trans hnone
      · intro params' sources' hresolve'
        cases hresolve.symm.trans hresolve'
        rw [hp]
        exact Processor.floatLogSink_unswayed (Parameters.text_eq_ok hlabel htext)
    | none =>
      have hrefused := execute_of_refused hp hloud hsilent hresolve
        (Parameters.text_eq_error hlabel htext)
      cases hexecute : node.execute silent c.payload c.origins with
      | ok outcome =>
        refine .inr ⟨outcome, label, rfl, ⟨hp, ?_, htext⟩, ?_⟩
        · rw [hparams]
          exact hlabel
        · rw [hrefused, hexecute]
          rfl
      | error e =>
        rw [hrefused, hexecute]
        exact .inl ⟨nofun, .error e⟩
      | crash m =>
        rw [hrefused, hexecute]
        exact .inl ⟨nofun, .crash m⟩

end Node

/-! ## A run -/

section Run

variable {loud silent : LogFilter} {nodes : List Node}

/-- Filters that answer alike make the same run. -/
theorem passages_eq_of_asksInfo (hnodes : ∀ node ∈ nodes, node.processor.AsksInfo)
    {filter filter' : LogFilter} (h : filter.admits .info = filter'.admits .info)
    (watch watch' : Stopwatch) (start : Checkpoint) :
    passages filter nodes start = passages filter' nodes start ∧
      (Run.ofNodes filter watch nodes start.payload start.origins).result =
        (Run.ofNodes filter' watch' nodes start.payload start.origins).result := by
  induction nodes generalizing start with
  | nil => exact ⟨rfl, rfl⟩
  | cons node rest ih =>
    have hexecute : node.execute filter start.payload start.origins =
        node.execute filter' start.payload start.origins :=
      Node.execute_eq_of_asksInfo (hnodes node List.mem_cons_self) h
    rw [passages, passages, Run.ofNodes, Run.ofNodes, hexecute]
    cases node.execute filter' start.payload start.origins with
    | ok outcome =>
      obtain ⟨hpassages, hresult⟩ := ih (fun n hn => hnodes n (List.mem_cons_of_mem _ hn))
        ⟨outcome.payload, outcome.origins⟩
      exact ⟨congrArg (_ :: ·) hpassages, hresult⟩
    | error e => exact ⟨rfl, rfl⟩
    | crash m => exact ⟨rfl, rfl⟩

/-- With the events and without them a run completes the same nodes and ends alike, unless a node
is mislabelled: then the run with the events ends at the first of them. -/
theorem passages_loud (hloud : loud.admits .info = true) (hsilent : silent.admits .info = false)
    (hnodes : ∀ node ∈ nodes, node.processor = .sink Processor.floatLogSink ∨
      ∀ params, node.processor.Unswayed params)
    (watch watch' : Stopwatch) (start : Checkpoint) :
    ((∀ p ∈ passages silent nodes start, ∀ label, ¬ p.Mislabelled label) ∧
      (passages loud nodes start).map Passage.muted =
        (passages silent nodes start).map Passage.muted ∧
      (Run.ofNodes loud watch nodes start.payload start.origins).result =
        (Run.ofNodes silent watch' nodes start.payload start.origins).result) ∨
    ∃ before p after label, passages silent nodes start = before ++ p :: after ∧
      (∀ earlier ∈ before, ∀ l, ¬ earlier.Mislabelled l) ∧ p.Mislabelled label ∧
      (passages loud nodes start).map Passage.muted = before.map Passage.muted ∧
      (Run.ofNodes loud watch nodes start.payload start.origins).result =
        .error (.processor p.node.index p.node.name (.mislabelled label)) := by
  induction nodes generalizing start with
  | nil =>
    refine .inl ⟨fun p hp => ?_, rfl, rfl⟩
    simp [passages] at hp
  | cons node rest ih =>
    rcases Node.execute_loud (c := start) hloud hsilent (hnodes node List.mem_cons_self) with
      ⟨htidy, halike⟩ | ⟨outcome, label, hok, hmislabelled, herror⟩
    · rw [passages, passages, Run.ofNodes, Run.ofNodes]
      generalize node.execute silent start.payload start.origins = quiet at htidy halike ⊢
      generalize node.execute loud start.payload start.origins = spoken at halike ⊢
      cases halike with
      | error e => exact .inl ⟨List.forall_mem_nil _, rfl, rfl⟩
      | crash m => exact .inl ⟨List.forall_mem_nil _, rfl, rfl⟩
      | @ok o' o ho =>
        have hpayload : o'.payload = o.payload := congrArg (·.payload) ho
        have horigins : o'.origins = o.origins := congrArg (·.origins) ho
        have hhead : Passage.muted ⟨node, start, o'⟩ = Passage.muted ⟨node, start, o⟩ :=
          congrArg (Passage.mk node start) ho
        have hrest := ih (fun n hn => hnodes n (List.mem_cons_of_mem _ hn))
          ⟨o.payload, o.origins⟩
        simp only [hpayload, horigins, List.map_cons, hhead]
        rcases hrest with ⟨hnone, hmuted, hresult⟩ |
          ⟨before, p, after, label, hsplit, hbefore, hp, hmuted, hresult⟩
        · refine .inl ⟨?_, by rw [hmuted], hresult⟩
          exact List.forall_mem_cons.mpr ⟨htidy o rfl, hnone⟩
        · refine .inr ⟨⟨node, start, o⟩ :: before, p, after, label, by rw [hsplit]; rfl, ?_, hp,
            by rw [hmuted]; rfl, hresult⟩
          exact List.forall_mem_cons.mpr ⟨htidy o rfl, hbefore⟩
    · refine .inr ⟨[], ⟨node, start, outcome⟩,
        passages silent rest ⟨outcome.payload, outcome.origins⟩, label, ?_, List.forall_mem_nil _,
        hmislabelled, ?_, ?_⟩
      · rw [passages, hok]
        rfl
      · rw [passages, herror]
      · rw [Run.ofNodes, herror]

end Run

/-! ## Calls -/

namespace Pipeline

/-- Two calls end alike and leave the same behind, but for times: the call counts, the probe
results, and the nodes and sources of the latest run. -/
structure SameOutcome (a b : Run × Pipeline) : Prop where
  result : a.1.result = b.1.result
  untimed : a.2.untimed = b.2.untimed

/-- Without events, no passage of a run over the payload is mislabelled. -/
def Labelled (p : Pipeline) (payload : Payload) : Prop :=
  ∀ passage ∈ passages .off p.nodes (.start payload), ∀ label, ¬ passage.Mislabelled label

/-- Two calls on one payload, of which either both see events of level info, or none, or it makes
no difference. -/
def SameButFilter (p : Pipeline) (call call' : ProcessCall) : Prop :=
  call.payload = call'.payload ∧
    (call.filter.admits .info = call'.filter.admits .info ∨ p.Labelled call.payload)

/-- The nodes are such that the filter has a say only in labels. -/
structure Hearing (nodes : List Node) : Prop where
  asksInfo : ∀ node ∈ nodes, node.processor.AsksInfo
  unswayed : ∀ node ∈ nodes, node.processor = .sink Processor.floatLogSink ∨
    ∀ params, node.processor.Unswayed params

theorem hearing_of_builtin {configs : List NodeConfig} {p : Pipeline}
    (hp : Pipeline.new .builtin configs = .ok p) : Hearing p.nodes where
  asksInfo node hnode :=
    have hbind := (Topology.build_eq_ok_iff.mp (nodes_of_new hp)).1
    Registry.asksInfo_of_builtin (Topology.resolve_of_mem_bindFrom hbind node hnode)
  unswayed node hnode :=
    have hbind := (Topology.build_eq_ok_iff.mp (nodes_of_new hp)).1
    Registry.unswayed_of_builtin (Topology.resolve_of_mem_bindFrom hbind node hnode)

theorem untimed_completed (p : Pipeline) (call : ProcessCall) :
    (p.runOf call).completed.map NodeRun.untimed =
      ((passages call.filter p.nodes (.start call.payload)).map Passage.muted).map
        fun passage => (passage.record .stopped).untimed := by
  rw [completed_eq, List.map_map, List.map_map]
  rfl

/-- A run in which nothing is mislabelled is the one without events. -/
theorem runOf_of_labelled {p : Pipeline} (hp : Hearing p.nodes) {call : ProcessCall}
    (hlabelled : p.Labelled call.payload) :
    (p.runOf call).result = (p.runOf ⟨.off, .stopped, call.payload⟩).result ∧
      (p.runOf call).completed.map NodeRun.untimed =
        (p.runOf ⟨.off, .stopped, call.payload⟩).completed.map NodeRun.untimed := by
  rw [untimed_completed, untimed_completed]
  cases hinfo : call.filter.admits .info with
  | false =>
    have hoff : call.filter.admits .info = LogFilter.off.admits .info := hinfo
    obtain ⟨hpassages, hresult⟩ := passages_eq_of_asksInfo hp.asksInfo hoff call.watch .stopped
      (.start call.payload)
    exact ⟨hresult, by rw [hpassages]⟩
  | true =>
    have hoff : LogFilter.off.admits .info = false := rfl
    rcases passages_loud hinfo hoff hp.unswayed call.watch .stopped (.start call.payload) with
      ⟨-, hmuted, hresult⟩ | ⟨before, passage, after, label, hsplit, -, hmislabelled, -⟩
    · exact ⟨hresult, by rw [hmuted]⟩
    · have hmem : passage ∈ passages .off p.nodes (.start call.payload) := by
        rw [hsplit]
        simp
      exact absurd hmislabelled (hlabelled passage hmem label)

theorem runOf_of_sameButFilter {p : Pipeline} (hp : Hearing p.nodes) {call call' : ProcessCall}
    (h : p.SameButFilter call call') :
    (p.runOf call).result = (p.runOf call').result ∧
      (p.runOf call).completed.map NodeRun.untimed =
        (p.runOf call').completed.map NodeRun.untimed := by
  obtain ⟨hpayload, hinfo | hlabelled⟩ := h
  · obtain ⟨hpassages, hresult⟩ := passages_eq_of_asksInfo hp.asksInfo hinfo call.watch
      call'.watch (.start call.payload)
    rw [untimed_completed, untimed_completed, hpassages, ← hpayload]
    refine ⟨?_, rfl⟩
    show (Run.ofNodes _ _ _ _ _).result = (Run.ofNodes _ _ _ _ _).result
    rw [← hpayload]
    exact hresult
  · obtain ⟨hresult, hcompleted⟩ := runOf_of_labelled hp hlabelled
    obtain ⟨hresult', hcompleted'⟩ := runOf_of_labelled hp (hpayload ▸ hlabelled)
    rw [← hpayload] at hresult' hcompleted'
    exact ⟨hresult.trans hresult'.symm, hcompleted.trans hcompleted'.symm⟩

/-- Pipelines that differ in times only still do so behind two such calls. -/
theorem sameOutcome_process {p q : Pipeline} (hsame : p.untimed = q.untimed)
    (hp : Hearing p.nodes) {call call' : ProcessCall} (h : p.SameButFilter call call') :
    SameOutcome (p.process call.filter call.watch call.payload)
      (q.process call'.filter call'.watch call'.payload) := by
  have hnodes : p.nodes = q.nodes := (Pipeline.mk.inj hsame).1
  obtain ⟨hresult, hcompleted⟩ := runOf_of_sameButFilter hp h
  have hrun : p.runOf call' = q.runOf call' := by rw [runOf, runOf, hnodes]
  rw [hrun] at hresult hcompleted
  exact ⟨hresult, untimed_remember hsame hresult hcompleted⟩

theorem untimed_processAll {calls calls' : List ProcessCall} :
    ∀ {p q : Pipeline}, p.untimed = q.untimed → Hearing p.nodes →
      List.Forall₂ p.SameButFilter calls calls' →
      (p.processAll calls).untimed = (q.processAll calls').untimed := by
  induction calls generalizing calls' with
  | nil =>
    intro p q hsame _ h
    cases h
    exact hsame
  | cons call rest ih =>
    intro p q hsame hp h
    cases h with
    | cons hcall hrest =>
      exact ih (q := (q.process _ _ _).2) (sameOutcome_process hsame hp hcall).untimed hp hrest

/-- What a pipeline does over a payload for which its labels are not all strings: every call that
admits events ends at the first passage with a label that is none, though without events the
passage completes. -/
structure Tripped (p : Pipeline) (payload : Payload) (before : List Passage) (label : Json) :
    Prop where
  silent : ∃ passage after, passages .off p.nodes (.start payload) = before ++ passage :: after ∧
    (∀ earlier ∈ before, ∀ l, ¬ earlier.Mislabelled l) ∧ passage.Mislabelled label
  result : ∀ filter watch, filter.admits .info = true →
    (p.runOf ⟨filter, watch, payload⟩).result =
      .error (.processor before.length "float_log_sink" (.mislabelled label))
  completed : ∀ filter watch, filter.admits .info = true →
    (p.runOf ⟨filter, watch, payload⟩).completed = before.map (·.record watch)

theorem tripped_of_not_labelled {p : Pipeline} (hp : Hearing p.nodes) (hpositioned : p.Positioned)
    {payload : Payload} (h : ¬ p.Labelled payload) :
    ∃ before label, p.Tripped payload before label := by
  have hloud : LogFilter.all.admits .info = true := rfl
  have hsilent : LogFilter.off.admits .info = false := rfl
  rcases passages_loud hloud hsilent hp.unswayed .stopped .stopped (.start payload) with
    ⟨hlabelled, -⟩ | ⟨before, passage, after, label, hsplit, hbefore, hmislabelled, hmuted, hresult⟩
  · exact absurd hlabelled h
  have hposition : p.nodes[before.length]? = some passage.node := by
    refine (passages_linked .off p.nodes (.start payload)).node before.length passage ?_
    rw [hsplit, List.getElem?_append_right (Nat.le_refl _), Nat.sub_self]
    rfl
  have hname : passage.node.name = "float_log_sink" := by
    rw [Node.name, hmislabelled.1]
    rfl
  rw [hpositioned _ _ hposition, hname] at hresult
  refine ⟨before, label, ⟨passage, after, hsplit, hbefore, hmislabelled⟩,
    fun filter watch hinfo => ?_, fun filter watch hinfo => ?_⟩
  · have hall : filter.admits .info = LogFilter.all.admits .info := hinfo
    exact (passages_eq_of_asksInfo hp.asksInfo hall watch .stopped (.start payload)).2.trans hresult
  · have hall : filter.admits .info = LogFilter.all.admits .info := hinfo
    have hpassages :=
      (passages_eq_of_asksInfo hp.asksInfo hall watch .stopped (.start payload)).1
    have hrecord : Passage.record watch = Passage.record watch ∘ Passage.muted := rfl
    rw [completed_eq, hpassages, hrecord, ← List.map_map, hmuted, List.map_map]

/-- With the events fewer nodes complete than without. -/
theorem Tripped.completed_lt {p : Pipeline} {payload : Payload} {before : List Passage}
    {label : Json} (h : p.Tripped payload before label) (hp : Hearing p.nodes)
    {loud silent : LogFilter} (hloud : loud.admits .info = true)
    (hsilent : silent.admits .info = false) (watch watch' : Stopwatch) :
    (p.runOf ⟨loud, watch, payload⟩).completed.length <
      (p.runOf ⟨silent, watch', payload⟩).completed.length := by
  obtain ⟨passage, after, hsplit, -⟩ := h.silent
  have hoff : silent.admits .info = LogFilter.off.admits .info := hsilent
  have hpassages :=
    (passages_eq_of_asksInfo hp.asksInfo hoff watch' .stopped (.start payload)).1
  rw [h.completed loud watch hloud, completed_eq, hpassages, hsplit]
  simp

/-- Over the built-in processors, what a call ends in and leaves behind is independent of the log
filter, now and in all calls before, except that a `float_log_sink` refuses a label that is no
string only while events of level info are admitted. -/
theorem outcome_independent_of_filter_iff_labelled {configs : List NodeConfig} {p : Pipeline}
    (hp : Pipeline.new .builtin configs = .ok p) {history history' : List ProcessCall}
    (hhistory : List.Forall₂ p.SameButFilter history history') (payload : Payload) :
    let q := p.processAll history
    let q' := p.processAll history'
    (∀ filter filter' watch watch',
      SameOutcome (q.process filter watch payload) (q'.process filter' watch' payload) ↔
        filter.admits .info = filter'.admits .info ∨ p.Labelled payload) ∧
    (p.Labelled payload ∨ ∃ before label, p.Tripped payload before label ∧
      ∀ filter watch, filter.admits .info = true →
        (q.process filter watch payload).1.result =
            .error (.processor before.length "float_log_sink" (.mislabelled label)) ∧
          (q.process filter watch payload).2.lastRun = before.map (·.record watch)) := by
  intro q q'
  have hhearing := hearing_of_builtin hp
  have hpositioned : p.Positioned := fun t node => (vetted_of_builtin hp).index t node
  have hsame : q.untimed = q'.untimed := untimed_processAll rfl hhearing hhistory
  have hlast : ∀ history filter watch,
      ((p.processAll history).process filter watch payload).2.lastRun =
        (p.runOf ⟨filter, watch, payload⟩).completed := by
    intro history filter watch
    rw [lastRun_of_steady (vetted_of_builtin hp).steady history filter watch payload, completed_eq]
  have htripped : p.Labelled payload ∨ ∃ before label, p.Tripped payload before label := by
    by_cases h : p.Labelled payload
    · exact .inl h
    · exact .inr (tripped_of_not_labelled hhearing hpositioned h)
  constructor
  · intro filter filter' watch watch'
    constructor
    · intro h
      -- The latest runs are of one length, which a mislabelled node does not allow.
      have hlength := congrArg (·.lastRun.length) h.untimed
      simp only [untimed, List.length_map] at hlength
      rw [hlast history, hlast history'] at hlength
      refine htripped.symm.imp_left fun ⟨before, label, htrip⟩ => ?_
      cases hinfo : filter.admits .info <;> cases hinfo' : filter'.admits .info
      case false.true =>
        have := htrip.completed_lt hhearing hinfo' hinfo watch' watch
        omega
      case true.false =>
        have := htrip.completed_lt hhearing hinfo hinfo' watch watch'
        omega
      all_goals rfl
    · intro h
      have hq : q.nodes = p.nodes := p.processAll_nodes history
      have hcalls : q.SameButFilter ⟨filter, watch, payload⟩ ⟨filter', watch', payload⟩ := by
        rw [SameButFilter, Labelled, hq]
        exact ⟨rfl, h⟩
      exact sameOutcome_process hsame (hq ▸ hhearing) hcalls
  · refine htripped.imp_right ?_
    rintro ⟨before, label, h⟩
    refine ⟨before, label, h, fun filter watch hinfo => ?_⟩
    rw [hlast history, p.process_processAll history filter watch payload]
    exact ⟨h.result filter watch hinfo, h.completed filter watch hinfo⟩

/-- A sink whose label is a number lets a float pass as long as nobody listens. -/
theorem number_as_label_passes_unheard :
    let seven : Payload := { data := ⟨.float 7, by decide⟩ }
    let config : NodeConfig :=
      { processor := "float_log_sink", parameters := KeyMap.empty.insert "label" (.int 1) }
    ∃ p, Pipeline.new .builtin [config] = .ok p ∧
      (p.process .off .stopped seven).1.result = .ok seven ∧
      (p.process .all .stopped seven).1.result =
        .error (.processor 0 "float_log_sink" (.invalidParameter "label" "a string" "1")) :=
  ⟨_, rfl, rfl, rfl⟩

/-- The same sink behind calls that ended alike, as data of the wrong type does not reach it. -/
theorem outcome_independent_of_filter_iff_labelled_of_number :
    let seven : Payload := { data := ⟨.float 7, by decide⟩ }
    let heard : List ProcessCall := [⟨.all, .stopped, {}⟩]
    let unheard : List ProcessCall := [⟨.off, .stopped, {}⟩]
    let config : NodeConfig :=
      { processor := "float_log_sink", parameters := KeyMap.empty.insert "label" (.int 1) }
    ∃ p, Pipeline.new .builtin [config] = .ok p ∧
      List.Forall₂ p.SameButFilter heard unheard ∧
      (SameOutcome ((p.processAll heard).process .all .stopped seven)
          ((p.processAll unheard).process .off .stopped seven) ↔
        LogFilter.all.admits .info = LogFilter.off.admits .info ∨ p.Labelled seven) ∧
      ((p.processAll heard).process .all .stopped seven).1.result =
        .error (.processor 0 "float_log_sink" (.mislabelled (.int 1))) := by
  obtain ⟨p, hp, hempty, hresult⟩ :
      let config : NodeConfig :=
        { processor := "float_log_sink", parameters := KeyMap.empty.insert "label" (.int 1) }
      ∃ p, Pipeline.new .builtin [config] = .ok p ∧ passages .off p.nodes (.start {}) = [] ∧
        ((p.processAll [⟨.all, .stopped, {}⟩]).process .all .stopped
            { data := ⟨.float 7, by decide⟩ }).1.result =
          .error (.processor 0 "float_log_sink" (.mislabelled (.int 1))) := ⟨_, rfl, rfl, rfl⟩
  intro seven heard unheard config
  have hlabelled : p.Labelled {} := by
    rw [Labelled, hempty]
    exact List.forall_mem_nil _
  have hhistory : List.Forall₂ p.SameButFilter heard unheard := .cons ⟨rfl, .inr hlabelled⟩ .nil
  exact ⟨p, hp, hhistory,
    (outcome_independent_of_filter_iff_labelled hp hhistory seven).1 .all .off .stopped .stopped,
    hresult⟩

end Pipeline
end Dataflow
