/-
A context key that no node reads has no influence on a run.

Two runs are compared that start from the same data and from contexts that agree on a set of
keys.  If the nodes read nothing outside the set, the runs go the same way: the same nodes
complete, on the same arguments from the same sources, and where one run fails the other fails
alike.  The set on which the contexts agree only grows, by the keys that the nodes touch, since
what a node writes does not depend on what it does not read.
`Node.execute_alike` is the step, `Run.ofNodes_alike` the run.

A payload sink is handed the whole context.  It may send what it sees to the outside, but must
not let it decide whether the run goes on; `Processor.Discreet` asks no more of it.
-/
import Dataflow.Proofs.Context.Agreement
import Dataflow.Proofs.Pipeline.Reliable

namespace Dataflow

/-- Both give values that are related, or both fail in the same way. -/
inductive Outcome.Alike {ε α : Type} (R : α → α → Prop) : Outcome ε α → Outcome ε α → Prop
  | ok {a b : α} (h : R a b) : Alike R (.ok a) (.ok b)
  | error (e : ε) : Alike R (.error e) (.error e)
  | crash (m : Option String) : Alike R (.crash m) (.crash m)

namespace Outcome

variable {ε ε' α β : Type} {R : α → α → Prop} {S : β → β → Prop} {x y : Outcome ε α}

theorem Alike.bind {f g : α → Outcome ε β} (h : x.Alike R y)
    (hf : ∀ a b, R a b → (f a).Alike S (g b)) : (x >>= f).Alike S (y >>= g) := by
  cases h with
  | ok h => exact hf _ _ h
  | error e => exact .error e
  | crash m => exact .crash m

theorem Alike.mapError (h : x.Alike R y) (f : ε → ε') :
    (x.mapError f).Alike R (y.mapError f) := by
  cases h with
  | ok h => exact .ok h
  | error e => exact .error (f e)
  | crash m => exact .crash m

theorem alike_self (x : Outcome ε α) : x.Alike (· = ·) x := by
  cases x with
  | ok a => exact .ok rfl
  | error e => exact .error e
  | crash m => exact .crash m

theorem alike_of_eq (h : x = y) : x.Alike (· = ·) y := h ▸ alike_self x

end Outcome

/-- The key is in the set, or is touched. -/
def Touch.Settled (on : String → Prop) (touches : List Touch) (key : String) : Prop :=
  on key ∨ ¬ Touch.Free key touches

namespace Touch

variable {on : String → Prop} {touches : List Touch} {key : String}

theorem settled_nil : Settled on [] key ↔ on key :=
  or_iff_left (not_not_intro fun _ h => nomatch h)

theorem free_append {before after : List Touch} :
    Free key (before ++ after) ↔ Free key before ∧ Free key after := by
  simp only [Free, List.mem_append, or_imp, forall_and]

theorem settled_append {before after : List Touch} :
    Settled on (before ++ after) key ↔ Settled (Settled on before) after key := by
  simp only [Settled, free_append, not_and_or, or_assoc]

theorem settled_singleton {node : Nat} {k : String} {kind : TouchKind} :
    Settled on [⟨node, k, kind⟩] key ↔ on key ∨ k = key := by
  simp [Settled, Free]

end Touch

/-! ## Checkpoints -/

namespace Checkpoint

/-- The same data, and contexts and key origins that agree on the set. -/
structure Agree (on : String → Prop) (c c' : Checkpoint) : Prop where
  data : c.payload.data = c'.payload.data
  context : c.context.AgreeOn on c'.context
  origins : c.origins.AgreeOn on c'.origins

variable {on on' : String → Prop} {c c' : Checkpoint}

theorem Agree.mono (h : c.Agree on c') (hon : ∀ key, on' key → on key) : c.Agree on' c' where
  data := h.data
  context key hkey := h.context key (hon key hkey)
  origins key hkey := h.origins key (hon key hkey)

theorem Agree.settled_nil (h : c.Agree on c') : c.Agree (Touch.Settled on []) c' :=
  h.mono fun _ => Touch.settled_nil.mp

theorem Agree.write (h : c.Agree on c') (node : Nat) (key : String) (value : Json) :
    (c.write node key value).Agree (Touch.Settled on [⟨node, key, .write⟩])
      (c'.write node key value) where
  data := h.data
  context k hk := by
    show (c.payload.context.insert key value).get? k = (c'.payload.context.insert key value).get? k
    rw [KeyMap.get?_insert, KeyMap.get?_insert]
    by_cases hkey : key = k
    · rw [if_pos hkey, if_pos hkey]
    · rw [if_neg hkey, if_neg hkey]
      exact h.context k ((Touch.settled_singleton.mp hk).resolve_right hkey)
  origins k hk := by
    show (c.origins.insert key _).get? k = (c'.origins.insert key _).get? k
    rw [KeyMap.get?_insert, KeyMap.get?_insert]
    by_cases hkey : key = k
    · rw [if_pos hkey, if_pos hkey]
    · rw [if_neg hkey, if_neg hkey]
      exact h.origins k ((Touch.settled_singleton.mp hk).resolve_right hkey)

theorem Agree.writeAll (h : c.Agree on c') (node : Nat) (entries : List (String × Json)) :
    (entries.foldl (fun c e => c.write node e.1 e.2) c).Agree
      (Touch.Settled on (entries.map fun e => ⟨node, e.1, .write⟩))
      (entries.foldl (fun c e => c.write node e.1 e.2) c') := by
  induction entries generalizing on c c' with
  | nil => exact h.settled_nil
  | cons e rest ih =>
    refine (ih (h.write node e.1 e.2)).mono fun key hkey => ?_
    rw [List.map_cons, ← List.singleton_append] at hkey
    exact Touch.settled_append.mp hkey

theorem Agree.replaceData (h : c.Agree on c') (data : TypedData) :
    (Checkpoint.mk { data, context := c.payload.context } c.origins).Agree on
      ⟨{ data, context := c'.payload.context }, c'.origins⟩ where
  data := rfl
  context := h.context
  origins := h.origins

theorem Agree.ofProduced (h : c.Agree on c') (node : Nat) (produced : Payload) :
    (Effect.ofProduced node c.payload.context c.origins produced).checkpoint.Agree
      (Touch.Settled on (produced.context.keys.map (⟨node, ·, .write⟩)))
      (Effect.ofProduced node c'.payload.context c'.origins produced).checkpoint := by
  rw [Effect.ofProduced_eq, Effect.ofProduced_eq, KeyMap.keys, List.map_map]
  exact (h.replaceData produced.data).writeAll node produced.context.entries

/-- What a gate leaves agrees on the keys that the edit touched. -/
theorem Agree.ofGate (h : c.Agree on c') {gate gate' : Gate} (hgate : gate.Agree on gate')
    {touches : List Touch}
    (hrecorded : ∀ key, ¬ Touch.Free key touches → key ∈ gate.created ∨ key ∈ gate.deleted)
    (node : Nat) :
    (Effect.ofGate node c.payload.data c.origins gate).checkpoint.Agree (Touch.Settled on touches)
      (Effect.ofGate node c'.payload.data c'.origins gate').checkpoint where
  data := h.data
  context key hkey := hgate.context key (hkey.imp_right (hrecorded key))
  origins key hkey := by
    show (gate.created.foldl (fun o k => o.insert k (some node))
        (gate.deleted.foldl (fun o k => o.erase k) c.origins)).get? key =
      (gate'.created.foldl (fun o k => o.insert k (some node))
        (gate'.deleted.foldl (fun o k => o.erase k) c'.origins)).get? key
    rw [KeyMap.get?_foldl_insert_const, KeyMap.get?_foldl_insert_const, KeyMap.get?_foldl_erase,
      KeyMap.get?_foldl_erase, ← hgate.created, ← hgate.deleted]
    by_cases hcreated : key ∈ gate.created
    · rw [if_pos hcreated, if_pos hcreated]
    · rw [if_neg hcreated, if_neg hcreated]
      by_cases hdeleted : key ∈ gate.deleted
      · rw [if_pos hdeleted, if_pos hdeleted]
      · rw [if_neg hdeleted, if_neg hdeleted]
        refine h.origins key (hkey.resolve_right fun htouched => ?_)
        exact (hrecorded key htouched).elim hcreated hdeleted

end Checkpoint

/-! ## Processors -/

/-- What the context holds beside the required keys does not decide what a call ends in. -/
def Processor.Discreet : Processor → Prop
  | context p => p.Discreet
  | payloadSink p => ∀ (filter : LogFilter) (params : Parameters) (payload payload' : Payload),
    payload.data = payload'.data →
      (p.consume filter payload params).Alike (fun _ _ => True) (p.consume filter payload' params)
  | _ => True

theorem Processor.payloadLogSink_discreet : (payloadSink payloadLogSink).Discreet := by
  intro filter params payload payload' _
  unfold payloadLogSink
  dsimp only
  split
  · exact .ok trivial
  · exact .ok trivial

theorem Processor.discreet_of_mem_builtins {p : Processor} (h : p ∈ builtins) : p.Discreet := by
  simp only [builtins, List.mem_cons, List.not_mem_nil, or_false] at h
  rcases h with rfl | rfl | rfl | rfl | rfl | rfl | rfl | rfl | rfl | rfl | rfl | rfl
  case inr.inr.inr.inr.inr.inr.inr.inr.inr.inr.inr => exact payloadLogSink_discreet
  all_goals trivial

theorem Registry.discreet_of_builtin {reference : String} {p : Processor}
    (h : builtin.resolve reference = .ok p) : p.Discreet := by
  rcases resolve_cases h with h | h
  · obtain ⟨c, rfl, -⟩ := Processor.dutiful_of_shorthand h
    exact Processor.discreet_of_shorthand h
  · exact Processor.discreet_of_mem_builtins (mem_builtins_of_get? h)

/-! ## One node -/

namespace Node

/-- The keys that the node can read: those of parameters that are not configured, and those that
its processor requires. -/
structure ReadsOnly (node : Node) (on : String → Prop) : Prop where
  parameters : ∀ spec ∈ node.processor.parameters, node.isConfigured spec.name = false →
    on spec.name
  required : ∀ key ∈ node.processor.requiredKeys, on key

variable {node : Node} {on : String → Prop} {c c' : Checkpoint}

theorem ReadsOnly.mono {on' : String → Prop} (h : node.ReadsOnly on)
    (hon : ∀ key, on key → on' key) : node.ReadsOnly on' where
  parameters spec hspec hconfigured := hon _ (h.parameters spec hspec hconfigured)
  required key hkey := hon key (h.required key hkey)

theorem resolve_eq_of_agree (hnode : node.ReadsOnly on) (h : c.Agree on c') :
    node.resolve c.context c.origins = node.resolve c'.context c'.origins :=
  resolve_congr fun spec hspec hconfigured =>
    have hon := hnode.parameters spec hspec hconfigured
    ⟨h.context _ hon, h.origins _ hon⟩

/-- A call does the same in both runs to every key that it touches. -/
theorem apply_alike (hprocessor : node.processor.Discreet) (hnode : node.ReadsOnly on)
    (h : c.Agree on c') (filter : LogFilter) (params : Parameters) :
    node.touches params c.payload = node.touches params c'.payload ∧
      (node.apply filter params c.payload c.origins).Alike
        (fun e e' =>
          e.checkpoint.Agree (Touch.Settled on (node.touches params c.payload)) e'.checkpoint)
        (node.apply filter params c'.payload c'.origins) := by
  unfold apply touches
  cases hp : node.processor with
  | operation p =>
    refine ⟨rfl, .bind (Outcome.alike_of_eq (congrArg (p.process · params) h.data)) ?_⟩
    rintro data _ rfl
    exact .ok (h.replaceData data).settled_nil
  | probe p =>
    refine ⟨rfl, .bind (Outcome.alike_of_eq (congrArg (p.probe · params) h.data)) ?_⟩
    rintro value _ rfl
    cases node.config.contextKeyword? with
    | none => exact .ok h.settled_nil
    | some keyword => exact .ok (h.write node.index keyword value)
  | context p =>
    have hreads : (p.edit params).ReadsOnly on := by
      rw [hp] at hprocessor
      exact (hprocessor params).mono fun key hkey => hnode.required key (by rw [hp]; exact hkey)
    obtain ⟨hresult, hgate, htouches⟩ :=
      (Gate.agree_new h.context p.name p.createdKeys p.suppressedKeys).run hreads
    refine ⟨htouches node.index, ?_⟩
    show Outcome.Alike _ ((Gate.run (p.edit params) (p.gate c.context)).1 >>= _)
      ((Gate.run (p.edit params) (p.gate c'.context)).1 >>= _)
    -- The gate hands back every key that the edit touched.
    refine .bind (Outcome.alike_of_eq hresult) fun _ _ _ => .ok ?_
    exact h.ofGate hgate (fun _ => Gate.recorded_of_touched) node.index
  | source p =>
    refine ⟨rfl, .bind (Outcome.alike_self (p.produce params)) ?_⟩
    rintro data _ rfl
    exact .ok (h.replaceData data).settled_nil
  | sink p =>
    refine ⟨rfl, .bind (Outcome.alike_of_eq (congrArg (p.consume filter · params) h.data)) ?_⟩
    exact fun _ _ _ => .ok h.settled_nil
  | payloadSource p =>
    refine ⟨rfl, ?_⟩
    dsimp only
    cases p.produce params with
    | ok produced =>
      exact .ok (h.ofProduced node.index produced)
    | error e => exact .error e
    | crash m => exact .crash m
  | payloadSink p =>
    rw [hp] at hprocessor
    exact ⟨rfl, .bind (hprocessor filter params _ _ h.data) fun _ _ _ => .ok h.settled_nil⟩

end Node

/-- Two passages of the same node in two runs. -/
structure Passage.Alike (on : String → Prop) (p p' : Passage) : Prop where
  sources : p.outcome.sources = p'.outcome.sources
  touches : p.touches = p'.touches
  after : p.after.Agree (Touch.Settled on p.touches) p'.after

/-- From checkpoints that agree on what the node reads, both runs pass it, or both end there. -/
theorem Node.execute_alike {node : Node} {on : String → Prop} {c c' : Checkpoint}
    (hprocessor : node.processor.Discreet) (hnode : node.ReadsOnly on) (h : c.Agree on c')
    (filter : LogFilter) :
    (node.execute filter c.payload c.origins).Alike
      (fun o o' => Passage.Alike on ⟨node, c, o⟩ ⟨node, c', o'⟩)
      (node.execute filter c'.payload c'.origins) := by
  have hsame : node.resolve c.payload.context c.origins =
      node.resolve c'.payload.context c'.origins := resolve_eq_of_agree hnode h
  unfold execute
  rw [← h.data, ← hsame]
  cases hinput : node.checkInput c.payload.data with
  | error e => exact .error e
  | ok u =>
    cases hresolved : node.resolve c.payload.context c.origins with
    | error e => exact .error e
    | ok resolved =>
      obtain ⟨params, sources⟩ := resolved
      simp only [Outcome.lift_ok, Outcome.ok_bind, Outcome.pure_eq]
      obtain ⟨htouches, halike⟩ := apply_alike hprocessor hnode h filter params
      refine .bind (halike.mapError _) fun e e' hagree => .ok ?_
      have hparams : ∀ outcome, Passage.params ⟨node, c, outcome⟩ = params := by
        intro outcome
        unfold Passage.params Checkpoint.context
        rw [hresolved]
      have hparams' : ∀ outcome, Passage.params ⟨node, c', outcome⟩ = params := by
        intro outcome
        unfold Passage.params Checkpoint.context
        rw [← hsame, hresolved]
      constructor
      · rfl
      · rw [Passage.touches, Passage.touches, hparams, hparams']
        exact htouches
      · rw [Passage.touches, hparams]
        exact hagree

/-! ## A run -/

section Run

variable {nodes : List Node} {on : String → Prop} {start start' : Checkpoint}

/-- Two runs that differ only in what no node reads. -/
structure Run.Alike (filter : LogFilter) (nodes : List Node) (on : String → Prop)
    (start start' : Checkpoint) (passed passed' : List Passage) : Prop where
  sources : passed.map (fun p => (p.node, p.outcome.sources)) =
    passed'.map (fun p => (p.node, p.outcome.sources))
  touches : touchesOf passed = touchesOf passed'
  agree : (behind start passed).Agree (Touch.Settled on (touchesOf passed)) (behind start' passed')
  result : ∀ watch watch' : Stopwatch,
    (ofNodes filter watch nodes start.payload start.origins).result.Alike (fun _ _ => True)
      (ofNodes filter watch' nodes start'.payload start'.origins).result

theorem Run.alike_of_agree (filter : LogFilter)
    (hnodes : ∀ node ∈ nodes, node.processor.Discreet ∧ node.ReadsOnly on)
    (h : start.Agree on start') :
    Run.Alike filter nodes on start start' (passages filter nodes start)
      (passages filter nodes start') := by
  induction nodes generalizing on start start' with
  | nil => exact ⟨rfl, rfl, h.settled_nil, fun _ _ => .ok trivial⟩
  | cons node rest ih =>
    obtain ⟨hprocessor, hreads⟩ := hnodes node List.mem_cons_self
    have hstep := Node.execute_alike hprocessor hreads h filter
    generalize hfirst : node.execute filter start.payload start.origins = first at hstep
    generalize hsecond : node.execute filter start'.payload start'.origins = second at hstep
    cases hstep with
    | @ok outcome outcome' hpassage =>
      -- The nodes behind this one also read only keys on which the contexts agree now.
      have hrest := ih (fun n hn => ⟨(hnodes n (List.mem_cons_of_mem _ hn)).1,
        (hnodes n (List.mem_cons_of_mem _ hn)).2.mono fun key hkey => .inl hkey⟩) hpassage.after
      have hsources : outcome.sources = outcome'.sources := hpassage.sources
      simp only [passages, hfirst, hsecond]
      constructor
      · rw [List.map_cons, List.map_cons, hsources]
        exact congrArg ((node, outcome'.sources) :: ·) hrest.sources
      · exact congrArg₂ (· ++ ·) hpassage.touches hrest.touches
      · exact hrest.agree.mono fun key hkey => Touch.settled_append.mp hkey
      · intro watch watch'
        rw [ofNodes_cons_ok hfirst, ofNodes_cons_ok hsecond]
        exact hrest.result watch watch'
    | error e =>
      simp only [passages, hfirst, hsecond]
      refine ⟨rfl, rfl, h.settled_nil, fun _ _ => ?_⟩
      rw [ofNodes, ofNodes, hfirst, hsecond]
      exact .error e
    | crash m =>
      simp only [passages, hfirst, hsecond]
      refine ⟨rfl, rfl, h.settled_nil, fun _ _ => ?_⟩
      rw [ofNodes, ofNodes, hfirst, hsecond]
      exact .crash m

/-- Over processors that do not crash both runs complete, or both fail with the same error. -/
theorem Run.Alike.result_cases {filter : LogFilter}
    (h : Run.Alike filter nodes on start start' (passages filter nodes start)
      (passages filter nodes start'))
    (hsteady : ∀ node ∈ nodes, node.processor.Steady) (watch watch' : Stopwatch) :
    let run := ofNodes filter watch nodes start.payload start.origins
    let run' := ofNodes filter watch' nodes start'.payload start'.origins
    let passed := passages filter nodes start
    (∃ e, run.result = .error e ∧ run'.result = .error e) ∨
      run.result = .ok (behind start passed).payload ∧
        run'.result = .ok (behind start' (passages filter nodes start')).payload ∧
        passed.length = nodes.length := by
  intro run run' passed
  have hresult := h.result watch watch'
  obtain ⟨-, -, hpayload⟩ := ofNodes_eq filter watch' nodes start'
  generalize (ofNodes filter watch' nodes start'.payload start'.origins).result = second
    at hresult hpayload
  rcases ofNodes_ending filter watch nodes start with
    ⟨hlength, hok⟩ | ⟨node, -, ⟨e, -, herror⟩ | ⟨m, -, hcrash⟩⟩
  · rw [hok] at hresult
    cases hresult with
    | @ok _ payload' _ =>
      exact .inr ⟨hok, congrArg Outcome.ok (hpayload payload' rfl), hlength⟩
  · rw [herror] at hresult
    cases hresult
    exact .inl ⟨e, herror, rfl⟩
  · exact absurd hcrash (ofNodes_ne_crash filter watch start hsteady m)

end Run

/-! ## Irrelevant keys -/

/-- The node writes or deletes the key: it declares to, or the key is an entry of the payload that
it makes. -/
def Passage.Changes (p : Passage) (key : String) : Prop :=
  key ∈ p.node.createdKeys ∨ key ∈ p.node.suppressedKeys ∨
    ∃ source produced, p.node.processor = .payloadSource source ∧
      source.produce p.params = .ok produced ∧ produced.context.contains key = true

theorem Node.role_eq_payloadSource_iff {node : Node} :
    node.role = .payloadSource ↔ ∃ source, node.processor = .payloadSource source := by
  unfold role
  cases node.processor with
  | payloadSource p => exact ⟨fun _ => ⟨p, rfl⟩, fun _ => rfl⟩
  | probe p =>
    refine ⟨fun h => ?_, nofun⟩
    dsimp only at h
    split at h <;> cases h
  | _ => exact ⟨nofun, nofun⟩

theorem Passage.changes_iff {filter : LogFilter} {p : Passage}
    (hnode : p.node.processor.Reliable)
    (h : p.node.execute filter p.before.payload p.before.origins = .ok p.outcome) (key : String) :
    p.Changes key ↔ ¬ Touch.Free key p.touches := by
  by_cases hrole : p.node.role = .payloadSource
  · obtain ⟨source, hsource⟩ := Node.role_eq_payloadSource_iff.mp hrole
    have happly := p.apply_of_execute h
    simp only [Node.apply, hsource, Outcome.bind_eq_ok_iff] at happly
    obtain ⟨produced, hproduce, -⟩ := happly
    have htouches : p.touches = produced.context.keys.map (⟨p.node.index, ·, .write⟩) := by
      simp only [touches, Node.touches, hsource, hproduce]
    have hmem : ¬ Touch.Free key p.touches ↔ produced.context.contains key = true := by
      rw [htouches, ← KeyMap.mem_keys_iff]
      simp [Touch.Free]
    have hfree : Touch.Free key p.node.declared := by
      rw [(Node.touches_of_payloadSource hrole p.params p.before.payload).1]
      exact fun touch h => absurd h List.not_mem_nil
    obtain ⟨hcreated, hsuppressed⟩ := Node.free_declared_iff.mp hfree
    rw [hmem]
    constructor
    · rintro (h | h | ⟨other, made, hother, hmade, hkey⟩)
      · exact absurd h hcreated
      · exact absurd h hsuppressed
      · cases hother.symm.trans hsource
        cases hmade.symm.trans hproduce
        exact hkey
    · exact fun hkey => .inr (.inr ⟨source, produced, hsource, hproduce, hkey⟩)
  · have hsource : ¬ ∃ source, p.node.processor = .payloadSource source :=
      fun h => hrole (Node.role_eq_payloadSource_iff.mpr h)
    rw [p.touches_eq hnode h hrole, Node.free_declared_iff, not_and_or, not_not, not_not, Changes,
      ← or_assoc]
    refine or_iff_left ?_
    rintro ⟨source, -, h, -⟩
    exact hsource ⟨source, h⟩

theorem exists_changes_iff {filter : LogFilter} {nodes : List Node} {start : Checkpoint}
    {passed : List Passage} (hlinked : Linked filter nodes start passed)
    (hreliable : ∀ node ∈ nodes, node.processor.Reliable) (key : String) :
    (∃ p ∈ passed, p.Changes key) ↔ ¬ Touch.Free key (touchesOf passed) := by
  have hpassage : ∀ p ∈ passed, p.Changes key ↔ ¬ Touch.Free key p.touches := by
    intro p hp
    obtain ⟨t, ht⟩ := List.mem_iff_getElem?.mp hp
    exact p.changes_iff (hreliable _ (List.mem_of_getElem? (hlinked.node t p ht)))
      (hlinked.execute t p ht) key
  rw [touchesOf, Touch.free_flatMap]
  push Not
  exact exists_congr fun p => and_congr_right fun hp => hpassage p hp

theorem Linked.map_node {filter : LogFilter} {nodes : List Node} {start : Checkpoint}
    {passed : List Passage} (hlinked : Linked filter nodes start passed)
    (hlength : passed.length = nodes.length) : passed.map (·.node) = nodes := by
  refine List.ext_getElem? fun t => ?_
  rw [List.getElem?_map]
  cases ht : passed[t]? with
  | some p => exact (hlinked.node t p ht).symm
  | none =>
    have hle : nodes.length ≤ t := hlength ▸ List.getElem?_eq_none_iff.mp ht
    exact (List.getElem?_eq_none hle).symm

theorem Linked.get?_of_free {filter : LogFilter} {nodes : List Node} {start : Checkpoint}
    {passed : List Passage} (hlinked : Linked filter nodes start passed)
    (hindex : ∀ (t : Nat) (node : Node), nodes[t]? = some node → node.index = t) {key : String}
    (hfree : Touch.Free key (touchesOf passed)) :
    (behind start passed).context.get? key = start.context.get? key := by
  obtain ⟨hshows, -⟩ := hlinked.shows hindex key passed.length (Nat.le_refl _)
  rw [List.take_length, Touch.last?_eq_none_iff.mpr hfree, checkpointAt_length] at hshows
  exact hshows.1

theorem Checkpoint.agree_start {on : String → Prop} {payload payload' : Payload}
    (hdata : payload.data = payload'.data)
    (hcontext : payload.context.AgreeOn on payload'.context) :
    (start payload).Agree on (start payload') where
  data := hdata
  context := hcontext
  origins key hkey := by
    show (payload.context.map _).get? key = (payload'.context.map _).get? key
    rw [KeyMap.get?_map, KeyMap.get?_map, hcontext key hkey]

/-- A key that no node reads has no influence, on any pipeline over the built-in registry, whatever
was run before: two runs from the same data, on contexts that agree on every other key, fail with
the same error or leave the same data, and take the arguments from the same sources.  The key is
left alike by both runs if a node changes it, and each run leaves its own value if none does. -/
theorem Pipeline.irrelevant_key_has_no_influence {configs : List NodeConfig} {p : Pipeline}
    (hp : Pipeline.new .builtin configs = .ok p) {key : String}
    (hparameters : ∀ node ∈ p.nodes, ∀ spec ∈ node.processor.parameters,
      node.isConfigured spec.name = false → spec.name ≠ key)
    (hrequired : ∀ node ∈ p.nodes, key ∉ node.processor.requiredKeys)
    (history history' : List ProcessCall) (filter : LogFilter) (watch watch' : Stopwatch)
    {payload payload' : Payload} (hdata : payload.data = payload'.data)
    (hcontext : ∀ k, k ≠ key → payload.context.get? k = payload'.context.get? k) :
    let first := (p.processAll history).process filter watch payload
    let second := (p.processAll history').process filter watch' payload'
    let passed := passages filter p.nodes (.start payload)
    first.2.lastRun.map (fun r => (r.node, r.sources)) =
        second.2.lastRun.map (fun r => (r.node, r.sources)) ∧
      ((∃ e, first.1.result = .error e ∧ second.1.result = .error e) ∨
        ∃ after after', first.1.result = .ok after ∧ second.1.result = .ok after' ∧
          after.data = after'.data ∧
          (∀ k, k ≠ key → after.context.get? k = after'.context.get? k) ∧
          passed.map (·.node) = p.nodes ∧
          ((∃ node ∈ passed, node.Changes key) →
            after.context.get? key = after'.context.get? key) ∧
          ((¬ ∃ node ∈ passed, node.Changes key) →
            after.context.get? key = payload.context.get? key ∧
              after'.context.get? key = payload'.context.get? key)) := by
  intro first second passed
  let passed' := passages filter p.nodes (.start payload')
  have hvetted : Vetted p.nodes := Pipeline.vetted_of_builtin hp
  have hnodes : ∀ node ∈ p.nodes, node.processor.Discreet ∧ node.ReadsOnly (· ≠ key) := by
    intro node hnode
    have hbind := (Topology.build_eq_ok_iff.mp (Pipeline.nodes_of_new hp)).1
    refine ⟨Registry.discreet_of_builtin (Topology.resolve_of_mem_bindFrom hbind node hnode),
      hparameters node hnode, ?_⟩
    rintro other hother rfl
    exact hrequired node hnode hother
  have halike := Run.alike_of_agree filter hnodes (Checkpoint.agree_start hdata hcontext)
  have hfirst : first.1 = Run.of filter watch p.nodes payload :=
    p.process_processAll history filter watch payload
  have hsecond : second.1 = Run.of filter watch' p.nodes payload' :=
    p.process_processAll history' filter watch' payload'
  constructor
  · show first.2.lastRun.map _ = second.2.lastRun.map _
    rw [Pipeline.lastRun_of_steady hvetted.steady history filter watch payload,
      Pipeline.lastRun_of_steady hvetted.steady history' filter watch' payload',
      List.map_map, List.map_map]
    exact halike.sources
  rw [hfirst, hsecond]
  rcases halike.result_cases hvetted.steady watch watch' with herror | ⟨hok, hok', hlength⟩
  · exact .inl herror
  have hlinked : Linked filter p.nodes (.start payload) passed := passages_linked ..
  have hlinked' : Linked filter p.nodes (.start payload') passed' := passages_linked ..
  have hchanges := exists_changes_iff hlinked hvetted.reliable key
  refine .inr ⟨_, _, hok, hok', halike.agree.data, fun k hk => halike.agree.context k (.inl hk),
    hlinked.map_node hlength, fun hchanged => ?_, fun hunchanged => ?_⟩
  · exact halike.agree.context key (.inr (hchanges.mp hchanged))
  · have hfree : Touch.Free key (touchesOf passed) :=
      not_not.mp fun htouched => hunchanged (hchanges.mpr htouched)
    have hfree' : Touch.Free key (touchesOf passed') := halike.touches ▸ hfree
    exact ⟨hlinked.get?_of_free hvetted.index hfree, hlinked'.get?_of_free hvetted.index hfree'⟩

/-- A configured prefix does not depend on the one in the context, which a later node replaces. -/
theorem Pipeline.irrelevant_key_has_no_influence_of_prefix :
    let configs : List NodeConfig :=
      [{ processor := "prefix_suffix_adder"
         parameters := KeyMap.empty.insert "prefix" (.str "<") },
        { processor := "rename:name:prefix" }]
    let name : Context := KeyMap.empty.insert "name" (.str "n")
    let payload : Payload := { data := .text "c", context := name.insert "prefix" (.str "p") }
    let payload' : Payload := { data := .text "c", context := name }
    ∃ p after after', Pipeline.new .builtin configs = .ok p ∧
      (p.process .all .stopped payload).1.result = .ok after ∧
      (p.process .all .stopped payload').1.result = .ok after' ∧
      after.data = after'.data ∧ after.context.get? "prefix" = after'.context.get? "prefix" := by
  intro configs name payload payload'
  obtain ⟨p, adder, renamer, complete, hp, hnodes, hspecs, hconfigured, hnone, hkeys, hcreated,
      hcomplete⟩ :
      ∃ p adder renamer complete, Pipeline.new .builtin configs = .ok p ∧
        p.nodes = [adder, renamer] ∧
        adder.processor.parameters = [.optional "prefix" (.str ""), .optional "suffix" (.str "")] ∧
        adder.isConfigured "prefix" = true ∧ renamer.processor.parameters = [] ∧
        p.nodes.flatMap (·.processor.requiredKeys) = ["name"] ∧
        renamer.createdKeys = ["prefix"] ∧
        (p.process .all .stopped payload).1.result = .ok complete :=
    ⟨_, _, _, _, rfl, rfl, rfl, rfl, rfl, rfl, rfl, rfl⟩
  have hparameters : ∀ node ∈ p.nodes, ∀ spec ∈ node.processor.parameters,
      node.isConfigured spec.name = false → spec.name ≠ "prefix" := by
    intro node hnode spec hspec hunconfigured hname
    rw [hnodes] at hnode
    rcases List.mem_pair.mp hnode with rfl | rfl
    · rw [hname, hconfigured] at hunconfigured
      cases hunconfigured
    · rw [hnone] at hspec
      cases hspec
  have hrequired : ∀ node ∈ p.nodes, "prefix" ∉ node.processor.requiredKeys := by
    intro node hnode hkey
    have hmem : "prefix" ∈ ["name"] := hkeys ▸ List.mem_flatMap.mpr ⟨node, hnode, hkey⟩
    exact absurd hmem (by decide)
  have hdata : payload.data = payload'.data := rfl
  have hcontext : ∀ k, k ≠ "prefix" → payload.context.get? k = payload'.context.get? k :=
    fun k hk => KeyMap.get?_insert_ne name (Ne.symm hk) _
  obtain ⟨-, ⟨e, herror, -⟩ | ⟨after, after', hok, hok', hsame, -, hpassed, hchanged, -⟩⟩ :=
    Pipeline.irrelevant_key_has_no_influence hp hparameters hrequired [] [] .all .stopped .stopped
      hdata hcontext
  · cases herror.symm.trans hcomplete
  · have hmem : renamer ∈ (passages .all p.nodes (.start payload)).map (·.node) := by
      rw [hpassed, hnodes]
      exact List.mem_cons_of_mem _ List.mem_cons_self
    obtain ⟨passage, hpassage, rfl⟩ := List.mem_map.mp hmem
    refine ⟨p, after, after', hp, hok, hok', hsame, hchanged ⟨passage, hpassage, .inl ?_⟩⟩
    rw [hcreated]
    exact List.mem_cons_self

end Dataflow
